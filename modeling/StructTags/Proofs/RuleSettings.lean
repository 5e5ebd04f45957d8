import StructTags.Command.Run
import StructTags.Proofs.RunStages

/-!
# Rules and their settings

The severity of a rule is written down twice: in the table of rules and in the checker that reports
it. A configuration is read twice as well, by the linter and by the listing of the rules.
`Linter.lint_as_listed` says that all of them agree.
-/

namespace StructTags

/-! ## Reports of a run -/

namespace Linter

/-- Each report of a run is under a rule of the table that belongs to a dialect of the run or to
none, and has the severity that the table gives the rule. -/
theorem exists_rule_of_mem_unadjusted {l : Linter} {p : Package} {d : Diagnostic}
    (h : d ∈ l.unadjusted p) :
    ∃ r ∈ Rule.table, r.id = d.ruleId ∧ d.severity = r.severity ∧
      ∀ dialect, r.dialect = some dialect → dialect ∈ l.dialects := by
  have hreport := (dropRepeats_sublist [] _).subset
    ((Diagnostics.sortByLocation_perm _).mem_iff.1 h)
  obtain ⟨dialect, hdialect, file, field, -, hd⟩ := mem_reports.1 hreport
  rcases dialect.invalidTag_or_reports hd with ⟨hid, hseverity⟩ | ⟨tag, hreports⟩
  · exact ⟨_, List.mem_cons_self, hid.symm, hseverity, by simp⟩
  · obtain ⟨r, hr, hid, hof, hsame⟩ := hreports.listed
    refine ⟨r, hr, hid, hsame.symm, ?_⟩
    intro other hother
    rwa [← Option.some.inj (hof.symm.trans hother)]

end Linter

/-! ## Configurations -/

namespace Config

/-- The configuration without its settings of rules. -/
def withoutRules (c : Config) : Config :=
  { c with linter := c.linter.map ({ · with rules := none }) }

theorem ruleSetting?_eq (c : Config) (id : String) :
    c.ruleSetting? id = (Linter.ofConfig c).settings.lookup id := by
  unfold ruleSetting? Linter.ofConfig linterConfig
  cases c.linter with
  | none => rfl
  | some linter => cases hrules : linter.rules <;> simp [hrules]

theorem ofConfig_withoutRules (c : Config) :
    Linter.ofConfig c.withoutRules = { Linter.ofConfig c with settings := [] } := by
  unfold Linter.ofConfig withoutRules isLinterEnabled linterConfig enabledDialects
  cases c.linter <;> rfl

end Config

namespace Command

/-- What becomes of a diagnostic is what the listing of the rules shows: it is dropped if its rule
is `off`, and else it has the severity that is shown and is the same in all other respects. -/
def AsListed (c : Config) (d : Diagnostic) (d' : Option Diagnostic) : Prop :=
  ∃ r, Rule.ofId? d.ruleId = some r ∧
    (effectiveSetting c r = "off" ∧ d' = none ∨
      ∃ severity : Severity, effectiveSetting c r = severity.name ∧ d' = some { d with severity })

theorem asListed_adjust? (c : Config) {d : Diagnostic} {r : Rule}
    (hr : Rule.ofId? d.ruleId = some r) (hseverity : d.severity = r.severity) :
    AsListed c d ((Linter.ofConfig c).adjust? d) := by
  refine ⟨r, hr, ?_⟩
  unfold effectiveSetting Linter.adjust?
  rw [(Rule.mem_of_ofId? hr).2, ← c.ruleSetting?_eq]
  cases c.ruleSetting? d.ruleId with
  | none => exact .inr ⟨r.severity, rfl, by rw [← hseverity]⟩
  | some setting =>
    cases setting with
    | off => exact .inl ⟨rfl, rfl⟩
    | info => exact .inr ⟨.info, rfl, rfl⟩
    | warn => exact .inr ⟨.warning, rfl, rfl⟩
    | error => exact .inr ⟨.error, rfl, rfl⟩

end Command

namespace Linter

/-- A linter that is not enabled reports nothing. Otherwise its reports are those it would make
without settings of rules, each treated as the listing of the rules shows. Each is under a rule of
the table that belongs to a dialect of the run or to none, and without settings it has the severity
of the table. -/
theorem lint_as_listed (c : Config) (p : Package) :
    (∃ f, (∀ d ∈ (ofConfig c.withoutRules).lint p, Command.AsListed c d (f d)) ∧
        (ofConfig c).lint p =
          if c.isLinterEnabled then ((ofConfig c.withoutRules).lint p).filterMap f else []) ∧
      (∀ d ∈ (ofConfig c).lint p, ∃ r ∈ Rule.table, r.id = d.ruleId ∧
        ∀ dialect, r.dialect = some dialect → dialect ∈ c.enabledDialects) ∧
      ∀ d ∈ (ofConfig c.withoutRules).lint p, ∃ r, Rule.ofId? d.ruleId = some r ∧
        d.severity = r.severity := by
  rw [c.ofConfig_withoutRules, lint_of_no_settings, lint_eq_filterMap]
  have henabled : (ofConfig c).enabled = c.isLinterEnabled := rfl
  have hrule {d : Diagnostic} (hd : d ∈ (ofConfig c).unadjusted p) :
      ∃ r, Rule.ofId? d.ruleId = some r ∧ d.severity = r.severity := by
    obtain ⟨r, hr, hid, hseverity, -⟩ := exists_rule_of_mem_unadjusted hd
    exact ⟨r, hid ▸ Rule.ofId?_of_mem r hr, hseverity⟩
  rw [henabled]
  cases c.isLinterEnabled with
  | false => simp
  | true =>
    simp only [if_true]
    refine ⟨⟨_, ?_, rfl⟩, ?_, fun d => hrule⟩
    · intro d hd
      obtain ⟨r, hr, hseverity⟩ := hrule hd
      exact Command.asListed_adjust? c hr hseverity
    · intro d hd
      obtain ⟨d', hd', hadjust⟩ := List.mem_filterMap.1 hd
      obtain ⟨severity, rfl⟩ := eq_of_adjust? hadjust
      obtain ⟨r, hr, hid, -, hdialect⟩ := exists_rule_of_mem_unadjusted hd'
      exact ⟨r, hr, hid, hdialect⟩

/-- A field that breaks one rule of each of two dialects, and one with a tag that cannot be
decoded. -/
def mixedPackage : Package :=
  ⟨none, [⟨"a", none, [⟨none, {},
    [⟨some "B", none, {}, some ⟨"\x60json:\"B\" bson:\"b\"\x60", ⟨5, 24⟩⟩, []⟩,
      ⟨some "C", none, {}, some ⟨"json", ⟨30, 34⟩⟩, []⟩]⟩]⟩]⟩

/-- One rule off, and another one more severe than the table has it. -/
def twoSettings : Config :=
  { linter := some ⟨none, some [(BsonRules.sameTagName, .off), (JsonRules.sameTagName, .error)]⟩ }

set_option maxRecDepth 100000 in
/-- A rule that is off, one that is set and one that is left alone. -/
theorem lint_as_listed_mixed :
    ((ofConfig twoSettings).lint mixedPackage).map (fun d => (d.ruleId, d.severity)) =
        [(JsonRules.sameTagName, .error), (Checker.invalidTag, .error)] ∧
      ∃ f, (∀ d ∈ (ofConfig twoSettings.withoutRules).lint mixedPackage,
          Command.AsListed twoSettings d (f d)) ∧
        (ofConfig twoSettings).lint mixedPackage =
          ((ofConfig twoSettings.withoutRules).lint mixedPackage).filterMap f :=
  ⟨by cbv, (lint_as_listed twoSettings mixedPackage).1⟩

end Linter

end StructTags
