import Reconcile.Diagnostic.Payload

/-!
# Payloads are read back

A diagnostic that is written as a payload reads as the same diagnostic, whatever file and producer
are assumed for payloads that name none: nothing of it is left to be assumed. Only a diagnostic
without a file is not read back. Since whatever is read has a file, writing what was read and
reading that changes nothing (`payload_reads_back`).

The written form spells out what the reader would supply, so each part is read back on its own, and
the reader of diagnostics is nothing more than the readers of the parts (`diagnostic_eq_ok_iff`).
-/

namespace Reconcile.Payload

theorem bind_eq_ok_iff {ε α β : Type} {x : Except ε α} {f : α → Except ε β} {b : β} :
    (x >>= f) = .ok b ↔ ∃ a, x = .ok a ∧ f a = .ok b := by
  cases x with
  | error fault =>
    constructor
    · intro h
      cases h
    · rintro ⟨a, h, -⟩
      cases h
  | ok a =>
    constructor
    · intro h
      exact ⟨a, rfl, h⟩
    · rintro ⟨a', h, h'⟩
      cases h
      exact h'

/-! ## Parts -/

theorem range_toValue (place : String) (r : Range) : range place r.toValue = .ok r :=
  rfl

theorem note_toValue (place : String) (n : Note) : note place n.toValue = .ok n :=
  rfl

theorem notesFrom_map_toValue (index : Nat) (ns : List Note) :
    notesFrom index (ns.map Note.toValue) = .ok ns := by
  induction ns generalizing index with
  | nil => rfl
  | cons n ns ih =>
    rw [List.map_cons, notesFrom, note_toValue, ih]
    rfl

/-- A target that is left out is written as null, not as an empty text. -/
theorem code_toValue (c : Code) : code c.toValue = .ok (some c) := by
  obtain ⟨value, target, actionable⟩ := c
  cases target with
  | none => rfl
  | some target => rfl

/-! ## Diagnostics -/

theorem fields_eq_ok_iff {place : String} {value : Value} {data : Fields} :
    fields place value = .ok data ↔ value = .table data := by
  cases value <;> simp [fields]

/-- A payload is read as a diagnostic when its fields are read as those of the diagnostic. -/
theorem diagnostic_eq_ok_iff {fallback : Option String} {default : Source} {value : Value}
    {d : Diagnostic} :
    diagnostic fallback default value = .ok d ↔
      ∃ data : Fields, value = .table data ∧
        file fallback data = .ok d.file ∧
        textField "diagnostic" data "message" = .ok d.message ∧
        severity data = .ok d.severity ∧
        notes data = .ok d.notes ∧
        code (data.get "code") = .ok d.code ∧
        range "diagnostic.range" (data.get "range") = .ok d.range ∧
        source default data = d.source := by
  rw [diagnostic]
  simp only [bind_eq_ok_iff, fields_eq_ok_iff]
  constructor
  · rintro ⟨data, hvalue, _, hfile, _, hmessage, _, hseverity, _, hnotes, _, hcode, _, hrange, heq⟩
    cases heq
    exact ⟨data, hvalue, hfile, hmessage, hseverity, hnotes, hcode, hrange, rfl⟩
  · rintro ⟨data, hvalue, hfile, hmessage, hseverity, hnotes, hcode, hrange, hsource⟩
    refine ⟨data, hvalue, _, hfile, _, hmessage, _, hseverity, _, hnotes, _, hcode, _, hrange, ?_⟩
    rw [hsource]
    rfl

/-- The file of a payload is never empty. -/
theorem file_ne_empty {fallback : Option String} {data : Fields} {name : String}
    (h : file fallback data = .ok name) : name ≠ "" := by
  rw [file] at h
  split at h
  next =>
    split at h
    next => cases h
    next hempty =>
      cases h
      rintro rfl
      exact hempty rfl
  next => cases h

theorem file_of_lookup {fallback : Option String} {data : Fields} {name : String}
    (hlookup : data.lookup "file" = some (.text name)) (h : name ≠ "") :
    file fallback data = .ok name := by
  rw [file, hlookup]
  exact if_neg (by simpa using h)

theorem severity_of_lookup {data : Fields} {s : Severity}
    (h : data.lookup "severity" = some (.text s.name)) : severity data = .ok s := by
  rw [severity, h]
  dsimp only
  rw [Severity.ofName?_name]

theorem source_of_lookup {default : Source} {data : Fields} {s : Source}
    (h : data.lookup "source" = some (.text s.tag)) : source default data = s := by
  rw [source, Fields.get, h]
  exact Source.ofTag_tag s

/-- A diagnostic with a file is read back from its payload. -/
theorem diagnostic_toValue {d : Diagnostic} (h : d.file ≠ "") (fallback : Option String)
    (default : Source) : diagnostic fallback default d.toValue = .ok d := by
  refine diagnostic_eq_ok_iff.mpr ⟨_, rfl, file_of_lookup rfl h, rfl, severity_of_lookup rfl,
    notesFrom_map_toValue 0 d.notes, ?_, range_toValue _ d.range, source_of_lookup rfl⟩
  -- only a diagnostic with a code has a field for it
  cases hcode : d.code with
  | none => rfl
  | some c => exact code_toValue c

/-- Whatever is read has a file. -/
theorem file_ne_empty_of_diagnostic {fallback : Option String} {default : Source} {value : Value}
    {d : Diagnostic} (h : diagnostic fallback default value = .ok d) : d.file ≠ "" := by
  obtain ⟨data, -, hfile, -⟩ := diagnostic_eq_ok_iff.mp h
  exact file_ne_empty hfile

/-- **Payloads are read back.** A diagnostic reads as itself from its payload exactly when it has a
file, whatever file and producer are assumed; and a diagnostic that was read from any payload reads
as itself from its own. -/
theorem payload_reads_back (fallback : Option String) (default : Source) :
    (∀ d : Diagnostic, diagnostic fallback default d.toValue = .ok d ↔ d.file ≠ "") ∧
      ∀ fallback' default' value d, diagnostic fallback' default' value = .ok d →
        diagnostic fallback default d.toValue = .ok d := by
  refine ⟨fun d => ⟨file_ne_empty_of_diagnostic, fun h => ?_⟩, ?_⟩
  · exact diagnostic_toValue h fallback default
  · intro fallback' default' value d h
    exact diagnostic_toValue (file_ne_empty_of_diagnostic h) fallback default

/-- A payload that leaves file, severity, producer and the end of its range to be assumed and has a
bare number for a code is read with what is assumed; written out, it reads the same under other
assumptions. -/
theorem payload_reads_back_of_bare_payload :
    let start : Value := .table [("line", .integer (-1)), ("character", .integer 4)]
    let value : Value := .table [("range", .table [("start", start)]), ("message", .text "Boom"),
      ("related_information", .list [.table [("file", .text ""), ("message", .text "Here"),
        ("range", .table [("start", start)])]]), ("code", .integer 7)]
    let d : Diagnostic := ⟨"a.swift", .point ⟨-1, 4⟩, .error, "Boom", .textual,
      [⟨"", .point ⟨-1, 4⟩, "Here"⟩], some ⟨"7", none, false⟩⟩
    diagnostic (some "a.swift") .textual value = .ok d ∧ d.file ≠ "" ∧
      diagnostic none .structured d.toValue = .ok d := by
  intro start value d
  have hread : diagnostic (some "a.swift") .textual value = .ok d := rfl
  exact ⟨hread, by decide, (payload_reads_back none .structured).2 _ _ _ _ hread⟩

end Reconcile.Payload
