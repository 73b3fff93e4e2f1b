import PluginHost.World

/-!
# Scripted plugins

A plugin given as data: for each hook a list of actions, taken in order up to the first that
fails.  An action may be meant for one call only, or for one operation only.  Every hook and
callback first notes what it was called with, and most actions note what came of them.
-/

namespace PluginHost.Script

/-! ## Actions -/

/-- When an action is taken: at a certain call, counted from one, and for a certain operation. -/
structure Guard where
  call : Option Nat
  op : Option String
deriving DecidableEq, Repr, Inhabited

/-- Whether an action is taken at a call, with an operation if it is one of a callback. -/
def Guard.holds (g : Guard) (call : Nat) (op : Option Op) : Bool :=
  (match g.call with
    | none => true
    | some n => n = call)
  && match g.op with
    | none => true
    | some text => op.map Op.text = some text

/-- What a hook or callback does. -/
inductive Action where
  | fail (text : String)
  | status (code : Int32)
  | panic (payload : Payload)
  | register (kind : Dependency.Kind) (priority : UInt16) (key : String) (arg : Option Datum)
      (callback : List (Guard × Action)) (attempt : Bool)
  | note (text : String)
  | setData (key : String) (value : Datum)
  | getData (key : String) (kind : Datum.Kind)
  | hasData (key : String)
  | removeData (key : String)
  | setArg (value : Datum)
  | getArg (kind : Datum.Kind)
  | hasArg
  | clearArg
deriving Repr, Inhabited

abbrev Actions : Type := List (Guard × Action)

/-- A scripted plugin. -/
structure Plan where
  name : String
  hooks : List (HookKind × Actions)
deriving Repr, Inhabited

/-! ## Notes -/

/-- What comes of an action on data. -/
inductive Got where
  | nothing
  | datum (x : Datum)
  | flag (b : Bool)
deriving DecidableEq, Repr, Inhabited

/-- The datum that was read, if any. -/
def Got.ofOption : Option Datum → Got
  | none => .nothing
  | some x => .datum x

/-- What a hook is called with. -/
inductive Occasion where
  | init (registrar : String)
  | start (args : List String)
  | exit
  | reset
  | phase (p : Phase) (tx : Transaction)
deriving Repr, Inhabited

def Occasion.kind : Occasion → HookKind
  | .init _ => .init
  | .start _ => .start
  | .exit => .exit
  | .reset => .reset
  | .phase p _ => .phase p

/-- A note of a scripted plugin. -/
inductive Note where
  | hook (plugin : String) (occasion : Occasion)
  | callback (plugin : String) (kind : Dependency.Kind) (key : String) (op : Op) (view : ChangeView)
  | registered (id : Nat)
  | refused (e : RegistrationError)
  | text (s : String)
  | did (action : String) (got : Got)
deriving Repr, Inhabited

def Action.name : Action → String
  | .setData _ _ => "set_data"
  | .getData _ _ => "get_data"
  | .hasData _ => "has_data"
  | .removeData _ => "remove_data"
  | .setArg _ => "set_arg"
  | .getArg _ => "get_arg"
  | .hasArg => "has_arg"
  | .clearArg => "clear_arg"
  | .fail _ => "fail"
  | .status _ => "status"
  | .panic _ => "panic"
  | .register _ _ _ _ _ _ => "register"
  | .note _ => "note"

/-! ## Data -/

/-- What an action on data does to the state, for a transaction if there is one, and what comes
of it; nothing for other actions. -/
def Action.onData (tx : Option Nat) (w : World) : Action → Option (Got × World)
  | .setData key x => some (.nothing, w.withData (w.data.set key x))
  | .getData key k => some (.ofOption ((w.data.get? key).bind (Datum.as? k)), w)
  | .hasData key => some (.flag (w.data.contains key), w)
  | .removeData key => some (.flag (w.data.contains key), w.withData (w.data.erase key))
  | .setArg x => tx.map fun id => (.nothing, w.carry id x)
  | .getArg k => tx.map fun id => (.ofOption ((w.carried? id).bind (Datum.as? k)), w)
  | .hasArg => tx.map fun id => (.flag (w.carried? id).isSome, w)
  | .clearArg => tx.map fun id => (.nothing, w.dropCarried id)
  | _ => none

/-! ## Hooks and callbacks -/

/-- What an action that does not register anything comes to: what it notes, the state after it,
and how the hook ends if it ends there. -/
def Action.take (tx : Option Nat) (w : World) (a : Action) :
    List (PluginHost.Note Note) × World × Option Outcome :=
  match a with
  | .fail text => ([], w, some (.failed (.message text)))
  | .status code => ([], w, if code < 0 then some (.ofStatus code) else none)
  | .panic payload => ([], w, some (.panicked payload))
  | .note text => ([.note (.text text)], w, none)
  | a =>
    match a.onData tx w with
    | none => ([], w, none)
    | some (got, w) => ([.note (.did a.name got)], w, none)

/-- Takes actions in order up to the first that ends the hook. -/
def runActions (call : Nat) (op : Option Op) (tx : Option Nat) :
    Actions → Act World (PluginHost.Note Note) Outcome
  | [] => pure .done
  | (g, a) :: rest => fun w =>
    if g.holds call op then
      match a.take tx w with
      | (notes, w, some outcome) => ⟨outcome, w, notes⟩
      | (notes, w, none) =>
        let r := runActions call op tx rest w
        ⟨r.value, r.state, notes ++ r.trace⟩
    else runActions call op tx rest w

def callback (serial : Nat) (plugin : String) (kind : Dependency.Kind) (key : String)
    (actions : Actions) : Callback World Note := fun _ op view w =>
  let (call, w) := w.countCall (.callback serial)
  let r := runActions call (some op) none actions w
  ⟨r.value, r.state, .note (.callback plugin kind key op view) :: r.trace⟩

/-- The course of the actions of an init hook.  A refused registration ends it, unless it was only
an attempt. -/
def setUp (plugin : String) (call : Nat) (notes : List (PluginHost.Note Note)) (w : World) :
    Actions → Setup World Note Outcome
  | [] => .finish notes w .done
  | (g, a) :: rest =>
    if g.holds call none then
      match a with
      | .register kind priority key arg actions attempt =>
        let (serial, w) := w.takeSerial
        .register notes ⟨kind, priority, key, arg, callback serial plugin kind key actions⟩
          fun answer =>
            match answer with
            | .ok id => setUp plugin call [.note (.registered id)] w rest
            | .error e =>
              if attempt then setUp plugin call [.note (.refused e)] w rest
              else .finish [] w (.failed (.message e.message))
      | a =>
        match a.take none w with
        | (more, w, some outcome) => .finish (notes ++ more) w outcome
        | (more, w, none) => setUp plugin call (notes ++ more) w rest
    else setUp plugin call notes w rest

/-! ## Plugins -/

def hook (serial : Nat) (plugin : String) (actions : Actions) (o : Occasion) (tx : Option Nat) :
    Act World (PluginHost.Note Note) Outcome := fun w =>
  let (call, w) := w.countCall (.hook serial o.kind)
  let r := runActions call none tx actions w
  ⟨r.value, r.state, .note (.hook plugin o) :: r.trace⟩

def initHook (serial : Nat) (plugin : String) (actions : Actions) : InitHook World Note Outcome :=
  fun _ registrar w =>
    let (call, w) := w.countCall (.hook serial .init)
    setUp registrar call [.note (.hook plugin (.init registrar))] w actions

def Plan.actions? (p : Plan) (k : HookKind) : Option Actions :=
  (p.hooks.find? fun h => h.1 = k).map (·.2)

/-- The plugin of a plan, under a serial number of its own. -/
def Plan.plugin (p : Plan) (serial : Nat) : Plugin World Note where
  name := p.name
  path := none
  init := (p.actions? .init).map fun as => initHook serial p.name as
  start := (p.actions? .start).map fun as _ args => hook serial p.name as (.start args) none
  exit := (p.actions? .exit).map fun as _ _ => hook serial p.name as .exit none
  reset := (p.actions? .reset).map fun as _ _ => hook serial p.name as .reset none
  phase := fun ph => (p.actions? (.phase ph)).map fun as _ tx =>
    hook serial p.name as (.phase ph tx) (some tx.id)

end PluginHost.Script
