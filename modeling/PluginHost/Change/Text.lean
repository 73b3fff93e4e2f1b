import PluginHost.Change
import PluginHost.Json.Decode

/-!
# Change sets as JSON

A change set is written as an object with its fields in a fixed order.  It is read from an object
with any of its fields, or from an array of the fields in order; a change needs at least its
operation and its key.
-/

namespace PluginHost

def Op.word : Op → String
  | .add => "add"
  | .delete => "delete"
  | .change => "change"

def Op.ofWord? (w : String) : Option Op := [Op.add, .delete, .change].find? fun op => op.word = w

def Change.toJson (c : Change) : Json.Value :=
  .object [("op", .string c.op.word), ("key", .string c.key),
    ("source_values", .object c.source), ("target_values", .object c.target)]

def ChangeSet.toJson (s : ChangeSet) : Json.Value :=
  .object [("source", .optString s.source), ("target", .optString s.target),
    ("changes", .array (s.changes.map Change.toJson))]

def ChangeSet.text (s : ChangeSet) : String := Json.compact s.toJson

def Op.decoder : Json.Decoder Op :=
  Json.variant [("add", .add), ("delete", .delete), ("change", .change)]

def Change.record : Json.Record Change :=
  ⟨"KeyChange",
    [.of "op" true Op.decoder fun op c => ⟨op, c.key, c.source, c.target⟩,
      .of "key" true (Json.string "a string") fun key c => ⟨c.op, key, c.source, c.target⟩,
      .of "source_values" false Json.valueMap fun vs c => ⟨c.op, c.key, vs, c.target⟩,
      .of "target_values" false Json.valueMap fun vs c => ⟨c.op, c.key, c.source, vs⟩]⟩

def ChangeSet.record : Json.Record ChangeSet :=
  ⟨"ChangeSet",
    [.of "source" false (Json.optional (Json.string "a string"))
        fun x s => ⟨x, s.target, s.changes⟩,
      .of "target" false (Json.optional (Json.string "a string"))
        fun x s => ⟨s.source, x, s.changes⟩,
      .of "changes" false (Json.list (Change.record.decoder ⟨.add, "", [], []⟩))
        fun cs s => ⟨s.source, s.target, cs⟩]⟩

def ChangeSet.ofText (text : String) : Except Json.Problem ChangeSet :=
  Json.decode (ChangeSet.record.decoder ⟨none, none, []⟩) text

end PluginHost
