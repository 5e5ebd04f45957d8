import Mathlib
import StructTags.Proofs.RecordCodec
import StructTags.Report.Format

/-!
# JSON reports

A JSON report is a JSON document, and the diagnostics in it can be read back without loss,
whatever characters stand in their messages, file names and replacements.

Each type that a diagnostic is made of recovers what was written of it (`recovers_location`,
`recovers_suggestion`, `recovers_diagnostic`), and the text as a whole is read back as the document
that was printed. `Report.render_json_faithful` puts the two together. Numbers are the only limit:
a reader keeps them up to 64 bits.
-/

namespace StructTags

/-! ## Numbers of 64 bits -/

/-- The numbers of a location have at most 64 bits. -/
@[mk_iff]
structure Location.Fits (l : Location) : Prop where
  line : l.line < Digits.word64
  column : l.column < Digits.word64
  offset : l.offset < Digits.word64
  length : l.length < Digits.word64

/-- The numbers of a diagnostic have at most 64 bits, in its suggestions as well. -/
structure Diagnostic.Fits (d : Diagnostic) : Prop where
  location : d.location.Fits
  suggestions : ∀ s ∈ d.suggestions, s.location.Fits

theorem Location.fits_toJson {l : Location} : l.toJson.Fits ↔ l.Fits := by
  simp [toJson, Json.fits_obj, Json.fits_str, Json.fits_nat, Location.fits_iff]

theorem Diagnostic.fits_toJson {d : Diagnostic} (h : d.Fits) : d.toJson.Fits := by
  have hsuggestions : (Json.ofList Suggestion.toJson d.suggestions).Fits := by
    refine Json.fits_ofList fun s hs => ?_
    simp [Suggestion.toJson, Applicability.toJson, Json.fits_obj, Json.fits_str,
      Location.fits_toJson, h.suggestions s hs]
  simp [toJson, Severity.toJson, Json.fits_obj, Json.fits_str, Location.fits_toJson, h.location,
    hsuggestions]

/-! ## Reading diagnostics back -/

theorem Severity.ofDocument?_toJson (r : Reading) (s : Severity) :
    ofDocument? r s.toJson.toDocument = some s := by
  cases s <;> rfl

theorem Applicability.ofDocument?_toJson (r : Reading) (a : Applicability) :
    ofDocument? r a.toJson.toDocument = some a := by
  cases a <;> rfl

theorem recovers_location (r : Reading) (l : Location) :
    Json.Recovers Location.toJson (Location.ofDocument? r) l := by
  intro hfits n hn
  obtain ⟨hline, hcolumn, hoffset, hlength⟩ := Location.fits_toJson.1 hfits
  obtain ⟨m, rfl, -⟩ := Json.exists_depth_obj hn
  rw [Location.ofDocument?, Location.toJson, Json.fields?_obj r []]
  · simp [Json.text?_str, Json.natural?_nat, hline, hcolumn, hoffset, hlength]
  · rfl
  · decide

theorem recovers_suggestion (r : Reading) (s : Suggestion) :
    Json.Recovers Suggestion.toJson (Suggestion.ofDocument? r) s := by
  intro hfits n hn
  obtain ⟨m, rfl, hdepth⟩ := Json.exists_depth_obj hn
  have hlocation := (recovers_location r s.location).field hfits hdepth "location" (by simp)
  rw [Suggestion.ofDocument?, Suggestion.toJson, Json.fields?_obj r []]
  · simp [Json.text?_str, hlocation, Applicability.ofDocument?_toJson]
  · rfl
  · decide

theorem recovers_diagnostic (r : Reading) (d : Diagnostic) :
    Json.Recovers Diagnostic.toJson (Diagnostic.ofDocument? r) d := by
  intro hfits n hn
  obtain ⟨m, rfl, hdepth⟩ := Json.exists_depth_obj hn
  have hlocation := (recovers_location r d.location).field hfits hdepth "location" (by simp)
  have hlist := Json.recovers_ofList fun s (_ : s ∈ d.suggestions) => recovers_suggestion r s
  have hsuggestions := hlist.field hfits hdepth "suggestions" (by simp)
  rw [Diagnostic.ofDocument?, Diagnostic.toJson, Json.fields?_obj r []]
  · simp [Json.text?_str, Severity.ofDocument?_toJson, hlocation, hsuggestions]
  · rfl
  · decide

/-- The location of a suggestion is the deepest part of a list of diagnostics. -/
theorem depth_diagnostics_le (ds : List Diagnostic) :
    (Json.ofList Diagnostic.toJson ds).toDocument.depth ≤ 5 := by
  have hlocation : ∀ l : Location, l.toJson.toDocument.depth ≤ 1 := by
    intro l
    simp [Location.toJson, Json.depth_obj_le, Json.depth_str, Json.depth_nat]
  have hsuggestion : ∀ s : Suggestion, s.toJson.toDocument.depth ≤ 2 := by
    intro s
    simp [Suggestion.toJson, Applicability.toJson, Json.depth_obj_le, Json.depth_str, hlocation]
  have hsuggestions : ∀ d : Diagnostic,
      (Json.ofList Suggestion.toJson d.suggestions).toDocument.depth ≤ 3 := by
    intro d
    simp [Json.ofList, Json.depth_arr_le, hsuggestion]
  have hdiagnostic : ∀ d : Diagnostic, d.toJson.toDocument.depth ≤ 4 := by
    intro d
    simp [Diagnostic.toJson, Severity.toJson, Json.depth_obj_le, Json.depth_str, hsuggestions,
      (hlocation _).trans]
  simp [Json.ofList, Json.depth_arr_le, hdiagnostic]

/-! ## Reports -/

/-- A JSON report is well formed, and the diagnostics in it are read back as they were. -/
theorem Report.render_json_faithful (s : Style) {ds : List Diagnostic} (h : ∀ d ∈ ds, d.Fits) :
    Json.WellFormed (render .json s ds) ∧
      (Json.read? (render .json s ds).toList).bind
        (·.listOf? Json.maxDepth (Diagnostic.ofDocument? .json)) = some ds := by
  have hfits : (Json.ofList Diagnostic.toJson ds).Fits :=
    Json.fits_ofList fun d hd => Diagnostic.fits_toJson (h d hd)
  have hroom : (Json.ofList Diagnostic.toJson ds).toDocument.depth ≤ Json.maxDepth :=
    (depth_diagnostics_le ds).trans (by decide)
  refine ⟨⟨_, Json.layout_pretty _⟩, ?_⟩
  rw [render, Json.read?_pretty hfits, Option.bind_some]
  exact Json.recovers_ofList (fun d _ => recovers_diagnostic .json d) hfits _ hroom

/-- A diagnostic with quotes, backslashes, control characters and characters outside of ASCII, at
the largest offset there is. -/
def unusualDiagnostic : Diagnostic where
  ruleId := "json/\"quoted\""
  severity := .warning
  message := "tab\t, line\n, bell\x07, delete\x7f and \\ in \x60json:\"\u00e9\"\x60"
  location :=
    { file := "dir\\na\x1bme.go", line := 0, column := 0, offset := 18446744073709551615,
      length := 10 }
  suggestions :=
    [{ message := "use \u6f22\u5b57"
       replacement := "\x00\x08\x0c\r/"
       location := { file := "", line := 3, column := 7, offset := 0, length := 0 }
       applicability := .maybeIncorrect }]

theorem Report.render_json_faithful_unusual :
    (∀ d ∈ [unusualDiagnostic], d.Fits) ∧
      Json.WellFormed (render .json ⟨⟨false⟩, []⟩ [unusualDiagnostic]) ∧
      (Json.read? (render .json ⟨⟨false⟩, []⟩ [unusualDiagnostic]).toList).bind
        (·.listOf? Json.maxDepth (Diagnostic.ofDocument? .json)) = some [unusualDiagnostic] := by
  have hfits : ∀ d ∈ [unusualDiagnostic], d.Fits := by
    rw [List.forall_mem_singleton]
    refine ⟨⟨by decide, by decide, by decide, by decide⟩, ?_⟩
    exact List.forall_mem_singleton.2 ⟨by decide, by decide, by decide, by decide⟩
  exact ⟨hfits, render_json_faithful _ hfits⟩

end StructTags
