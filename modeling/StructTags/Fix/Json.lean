import StructTags.Diagnostic.Json
import StructTags.Fix.Basic

/-!
# Fixes as documents
-/

namespace StructTags

namespace Fix

def toJson (f : Fix) : Json :=
  .obj
    [("id", .str f.id),
     ("description", .str f.description),
     ("location", f.location.toJson),
     ("replacement", .str f.replacement),
     ("applicability", f.applicability.toJson),
     ("rule_id", .str f.ruleId)]

def ofDocument? (r : Reading) : Nat → Document → Option Fix
  | 0, _ => none
  | n + 1, d =>
    match d.fields? r
      ["id", "description", "location", "replacement", "applicability", "rule_id"] with
    | some [some id, some description, some location, some replacement, some applicability,
        some ruleId] => do
      return {
        id := ← id.text?
        description := ← description.text?
        location := ← Location.ofDocument? r n location
        replacement := ← replacement.text?
        applicability := ← Applicability.ofDocument? r applicability
        ruleId := ← ruleId.text? }
    | _ => none

end Fix

namespace FixResult

def toJson (r : FixResult) : Json :=
  .obj
    [("content", .str r.content),
     ("appliedCount", .nat r.applied.length),
     ("applied", .ofList (fun f => .str f.id) r.applied),
     ("skippedCount", .nat r.skipped.length),
     ("errors", .ofStrings r.errors)]

end FixResult

end StructTags
