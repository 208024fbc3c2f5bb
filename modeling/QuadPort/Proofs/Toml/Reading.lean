import Mathlib.Data.List.Forall2
import QuadPort.Toml.Decode

/-!
# Reading what is spelled

A spelling relates values of a document tree to what they stand for. A reader reads a spelling if
it reads every value as what it stands for. `Keyed` spells a field of a record in the entries of a
table: wherever the key of the field stands it has a value that spells the field, and where it does
not stand at all the field has its default. A record whose fields are read is read from any table
that spells them, in any order and among any other keys.
-/

namespace QuadPort.Toml

variable {α : Type}

/-! ## Spellings -/

namespace Spelling

def boolean (value : Value) (wanted : Bool) : Prop :=
  ∃ span, value = .scalar span (.boolean wanted)

def text (value : Value) (wanted : String) : Prop :=
  ∃ span, value = .scalar span (.string wanted)

def number (toNat : α → Nat) (value : Value) (wanted : α) : Prop :=
  ∃ span, value = .scalar span (.integer (toNat wanted))

def named (name : α → String) (value : Value) (wanted : α) : Prop :=
  text value (name wanted)

def four (item : Value → α → Prop) (value : Value) (wanted : Vector α 4) : Prop :=
  ∃ span tables items, value = .array span tables items ∧ List.Forall₂ item items wanted.toList

def table (record : Entries → α → Prop) (value : Value) (wanted : α) : Prop :=
  ∃ span style entries, value = .table span style entries ∧ record entries wanted

/-- The value spells something that may also be missing. -/
def present (spelled : Value → α → Prop) (value : Value) (wanted : Option α) : Prop :=
  ∃ content, wanted = some content ∧ spelled value content

end Spelling

/-- The entries spell a field: every value of its key does, and if there is none the field has its
default. -/
structure Keyed (name : String) (spelled : Value → α → Prop) (fallback : Option α)
    (entries : Entries) (wanted : α) : Prop where
  spelled : ∀ entry ∈ entries, entry.1.name = name → spelled entry.2 wanted
  absent : (∀ entry ∈ entries, entry.1.name ≠ name) → fallback = some wanted

namespace Keyed

variable {name : String} {spelled : Value → α → Prop} {entries : Entries} {wanted : α}

/-- A field that is left out is spelled by its default. -/
theorem leftOut (h : entries.filter (·.1.name == name) = []) :
    Keyed name spelled (some wanted) entries wanted where
  spelled entry hentry hname := by
    have hother := List.filter_eq_nil_iff.mp h entry hentry
    exact absurd (beq_iff_eq.mpr hname) hother
  absent _ := rfl

/-- A field whose key stands in one place is spelled by the value there. -/
theorem given {fallback : Option α} {key : Key} {value : Value}
    (h : entries.filter (·.1.name == name) = [(key, value)]) (hvalue : spelled value wanted) :
    Keyed name spelled fallback entries wanted where
  spelled entry hentry hname := by
    have hmem : entry ∈ entries.filter (·.1.name == name) :=
      List.mem_filter.mpr ⟨hentry, beq_iff_eq.mpr hname⟩
    rw [h, List.mem_singleton] at hmem
    rw [hmem]
    exact hvalue
  absent hnone := by
    have hmem : (key, value) ∈ entries.filter (·.1.name == name) := h ▸ List.mem_singleton_self _
    obtain ⟨hentry, hname⟩ := List.mem_filter.mp hmem
    exact absurd (beq_iff_eq.mp hname) (hnone _ hentry)

end Keyed

/-! ## Readers -/

def Reads (decode : Decoder α) (spelled : Value → α → Prop) : Prop :=
  ∀ value wanted, spelled value wanted → decode value = .ok wanted

namespace Reads

open Decode

theorem boolean : Reads Decode.boolean Spelling.boolean := by
  rintro _ wanted ⟨span, rfl⟩
  rfl

theorem text : Reads Decode.text Spelling.text := by
  rintro _ wanted ⟨span, rfl⟩
  rfl

/-- A number that is in range is read as it is. -/
theorem natural {width number : Nat} (h : number < Nat.pow 2 width) (span : Option Span) :
    Decode.natural width (.scalar span (.integer number)) = .ok number := by
  have hrange : (0 : Int) ≤ number ∧ (number : Int) < Nat.pow 2 width :=
    ⟨Int.natCast_nonneg number, Int.ofNat_lt.mpr h⟩
  exact if_pos hrange

/-- Words of a width are read from their numbers. -/
theorem word {width : Nat} {toNat : α → Nat} {ofNat : Nat → α}
    (hlt : ∀ wanted, toNat wanted < Nat.pow 2 width)
    (hsame : ∀ wanted, ofNat (toNat wanted) = wanted) :
    Reads (fun value ↦ return ofNat (← Decode.natural width value)) (Spelling.number toNat) := by
  rintro _ wanted ⟨span, rfl⟩
  calc
    (Decode.natural width (.scalar span (.integer (toNat wanted))) >>= fun number ↦
        return ofNat number) = .ok (ofNat (toNat wanted)) := by
      rw [natural (hlt wanted) span]
      rfl
    _ = .ok wanted := congrArg Except.ok (hsame wanted)

theorem byte : Reads Decode.byte (Spelling.number UInt8.toNat) :=
  word UInt8.toNat_lt fun _ ↦ UInt8.ofNat_toNat

theorem word32 : Reads Decode.word32 (Spelling.number UInt32.toNat) :=
  word UInt32.toNat_lt fun _ ↦ UInt32.ofNat_toNat

theorem word64 : Reads Decode.word64 (Spelling.number UInt64.toNat) :=
  word UInt64.toNat_lt fun _ ↦ UInt64.ofNat_toNat

/-- A variant is read from its name if the name is known. -/
theorem variant {known : List (String × α)} {name : α → String}
    (h : ∀ wanted, known.lookup (name wanted) = some wanted) :
    Reads (Decode.variant known) (Spelling.named name) := by
  rintro _ wanted ⟨span, rfl⟩
  simp only [Decode.variant, variantOf, h, located]

/-- Four items are read one after the other. -/
theorem four {item : Decoder α} {spelled : Value → α → Prop} (h : Reads item spelled) :
    Reads (Decode.four item) (Spelling.four spelled) := by
  rintro _ wanted ⟨span, tables, items, rfl, hitems⟩
  match wanted, hitems with
  | ⟨⟨[first, second, third, fourth]⟩, _⟩,
    .cons hfirst (.cons hsecond (.cons hthird (.cons hfourth .nil))) =>
    simp only [Decode.four, h _ _ hfirst, h _ _ hsecond, h _ _ hthird, h _ _ hfourth]
    rfl

end Reads

/-! ## Records -/

namespace Decode

/-- Entries pass if the value of every known key does. -/
theorem examine_ok {checks : List (String × Decoder Unit)} {entries : Entries}
    (h : ∀ known ∈ checks, ∀ entry ∈ entries, entry.1.name = known.1 → known.2 entry.2 = .ok ()) :
    examine checks entries = .ok () := by
  induction entries with
  | nil => rfl
  | cons entry entries ih =>
    have hrest := ih fun known hknown other hother ↦ h known hknown other (.tail _ hother)
    unfold examine at hrest ⊢
    simp only [List.forM, hrest]
    cases hlookup : checks.lookup entry.1.name with
    | none => rfl
    | some check =>
      obtain ⟨front, back, hchecks, -⟩ := List.lookup_eq_some_iff.mp hlookup
      have hcheck : check entry.2 = .ok () :=
        h (entry.1.name, check) (by simp [hchecks]) entry (.head _) rfl
      simp only [hcheck]
      rfl

end Decode

/-- A field is read from entries: it has its value there, and every value of its key passes. -/
structure Decode.RecordField.Read (field : Decode.RecordField α) (entries : Entries) (wanted : α) :
    Prop where
  inTable : field.inTable entries = .ok wanted
  check : ∀ entry ∈ entries, entry.1.name = field.check.1 → field.check.2 entry.2 = .ok ()

/-- A field is read from entries that spell it. -/
theorem Keyed.read {field : Decode.RecordField α} {spelled : Value → α → Prop} {entries : Entries}
    {wanted : α} (h : Keyed field.name spelled field.fallback entries wanted)
    (hreads : Reads field.decode spelled) : field.Read entries wanted where
  inTable := by
    unfold Decode.RecordField.inTable Entries.find?
    cases hfind : List.find? (fun entry ↦ entry.1.name == field.name) entries with
    | none =>
      have habsent := h.absent fun entry hentry hname ↦
        List.find?_eq_none.mp hfind entry hentry (beq_iff_eq.mpr hname)
      rw [habsent]
      rfl
    | some entry =>
      have hname : entry.1.name = field.name :=
        beq_iff_eq.mp (List.find?_eq_some_iff_append.mp hfind).1
      exact hreads _ _ (h.spelled entry (List.mem_of_find?_eq_some hfind) hname)
  check := by
    intro entry hentry hname
    have hdecode := hreads _ _ (h.spelled entry hentry hname)
    simp only [Decode.RecordField.check, hdecode]
    rfl

/-- A record is read from tables whose entries pass and have its fields. -/
theorem Reads.record {shape : Decode.Shape α} {spelled : Entries → α → Prop}
    (h : ∀ entries wanted, spelled entries wanted →
      (∀ known ∈ shape.checks, ∀ entry ∈ entries, entry.1.name = known.1 →
        known.2 entry.2 = .ok ()) ∧ shape.ofTable entries = .ok wanted) :
    Reads (Decode.record shape) (Spelling.table spelled) := by
  rintro _ wanted ⟨span, style, entries, rfl, hentries⟩
  obtain ⟨hchecks, htable⟩ := h entries wanted hentries
  simp only [Decode.record, Decode.examine_ok hchecks, htable]
  rfl

/-- Something that is there is read as such. -/
theorem Reads.present {decode : Decoder α} {spelled : Value → α → Prop} (h : Reads decode spelled) :
    Reads (fun value ↦ return some (← decode value)) (Spelling.present spelled) := by
  rintro value _ ⟨content, rfl, hvalue⟩
  simp only [h value content hvalue]
  rfl

end QuadPort.Toml
