import PluginHost.Proofs.Json.Reading

/-!
# Decoding what a tree says

A tree that says a text, a truth value or null is decoded to it.  A record is decoded from the
members of an object one by one: a member of a field's name is read into the record, once, and a
member of any other name is passed over.

    string_eq_ok, optional_eq_ok    a text, or a text or null
    members_field, members_other    one member
-/

namespace PluginHost.Json

/-! ## Texts -/

theorem string_eq_ok {s : String} {t : Tree} (h : Says (.string s) t) (expected : String)
    (depth : Nat) : string expected depth t = .ok s := by
  cases h with
  | string hs => exact hs.value

/-- What decodes a text decodes a text or null. -/
theorem optional_eq_ok {α : Type} {d : Decoder α} {f : String → α} {depth : Nat}
    (hd : ∀ s t, Says (.string s) t → d depth t = .ok (f s)) {o : Option String} {t : Tree}
    (h : Says (.optString o) t) : optional d depth t = .ok (o.map f) := by
  cases o with
  | none =>
    cases h with
    | null => rfl
  | some s =>
    have hs := hd s t h
    cases h with
    | string _ =>
      rw [optional, hs]
      · rfl
      · intro hnull
        cases hnull

/-! ## Records -/

section
variable {ρ : Type} {rec : Record ρ} {depth : Nat} {seen : List String} {r : ρ}
  {name : String} {k : Text} {t : Tree} {ts : List (Text × Tree)}

theorem Field.read_of {α : Type} {required : Bool} {d : Decoder α} {store : α → ρ → ρ} {a : α}
    (h : d depth t = .ok a) (r : ρ) :
    (Field.of name required d store).read depth t r = .ok (store a r) := by
  show (d depth t).map _ = _
  rw [h]
  rfl

/-- A member that no field is called by is passed over. -/
theorem members_other (hk : k.value = .ok name)
    (hf : rec.fields.find? (fun f => f.name = name) = none) (ht : skip t = .ok ()) :
    rec.members depth seen r ((k, t) :: ts) = rec.members depth seen r ts := by
  simp only [Record.members, hk, bind, Except.bind, hf, ht]

/-- A member of a field's name is read into the record, if no member before has that name. -/
theorem members_field {f : Field ρ} {r' : ρ} (hk : k.value = .ok name)
    (hf : rec.fields.find? (fun f => f.name = name) = some f) (hseen : name ∉ seen)
    (hr : f.read depth t r = .ok r') :
    rec.members depth seen r ((k, t) :: ts) = rec.members depth (name :: seen) r' ts := by
  simp only [Record.members, hk, bind, Except.bind, hf, if_neg hseen, hr]

end

end PluginHost.Json
