import Mathlib.Data.List.DropRight
import Governance.Audit.Journal
import Governance.Proofs.Audit.Written
import Governance.Proofs.Json.Leading
import Governance.Proofs.Text.Bytes

/-!
# Entries and lines of a journal

What is written for an entry, and what is read of a file to which lines were added.
-/

namespace Governance

/-!
## Entries in a journal

No end of a line is written for an entry but the one that ends its line, whatever texts the entry holds,
and what is written is read as the entry. With anything but blanks in front of it on the same line it is
not read at all.
-/

open Json

/-! ### Texts without an end of a line -/

namespace Json

theorem newline_not_mem_escapeChar (c : Char) : '\n' ∉ escapeChar c := by
  have hdigit : ∀ n < 16, '\n' ≠ hexDigit n := by decide
  unfold escapeChar
  split
  any_goals simp
  split
  · have hhigh := hdigit (c.toNat / 16) (by omega)
    have hlow := hdigit (c.toNat % 16) (by omega)
    simp [hhigh, hlow]
  · rename_i hnewline _ _ _
    simpa using Ne.symm hnewline

theorem newline_not_mem_quoted (s : String) : '\n' ∉ quoted s := by
  have hescaped : '\n' ∉ s.toList.flatMap escapeChar := by
    intro hmem
    obtain ⟨c, -, hc⟩ := List.mem_flatMap.1 hmem
    exact newline_not_mem_escapeChar c hc
  simpa [quoted] using hescaped

theorem newline_not_mem_itemsText {items : List Json} (hitems : ∀ j ∈ items, '\n' ∉ j.text) :
    '\n' ∉ itemsText items := by
  induction items with
  | nil => simp [itemsText]
  | cons item others ih =>
    obtain ⟨hitem, hothers⟩ := List.forall_mem_cons.1 hitems
    cases others with
    | nil => exact hitem
    | cons next others => simpa [itemsText, hitem] using ih hothers

theorem newline_not_mem_membersText {members : List (String × Json)}
    (hmembers : ∀ m ∈ members, '\n' ∉ m.2.text) : '\n' ∉ membersText members := by
  induction members with
  | nil => simp [membersText]
  | cons m others ih =>
    obtain ⟨key, value⟩ := m
    obtain ⟨hvalue, hothers⟩ := List.forall_mem_cons.1 hmembers
    have hkey := newline_not_mem_quoted key
    cases others with
    | nil => simpa [membersText, hkey] using hvalue
    | cons next others => simpa [membersText, hkey, hvalue] using ih hothers

theorem Readable.newline_not_mem {room : Nat} {j : Json} (hj : Readable room j) : '\n' ∉ j.text := by
  induction hj with
  | null => decide
  | bool b => cases b <;> decide
  | @number _ n hn =>
    obtain ⟨p, hp, -⟩ := Option.map_eq_some_iff.1 hn
    obtain ⟨c, rest, htext, hc, hrest⟩ := numberChars_of_ofChars? hp
    rw [text, htext, List.mem_cons]
    rintro (rfl | hmem)
    · exact absurd hc (by decide)
    · exact absurd (hrest _ hmem) (by decide)
  | string s => exact newline_not_mem_quoted s
  | array hitems ih => simpa [text] using newline_not_mem_itemsText ih
  | object hmembers ih => simpa [text] using newline_not_mem_membersText ih

end Json

/-- What is read back of an entry that was written as a text: it can be told in JSON, and its doubles are
such as their texts stand for. -/
structure AuditEntry.IsLegible (e : AuditEntry) : Prop where
  tellable : e.IsTellable
  details : ∀ d ∈ e.details, Number.ReadsBack (.real d.riskScore)
  usage : ∀ u ∈ e.usage, Number.ReadsBack (.real u.cost)
  security : ∀ m ∈ e.security, Number.ReadsBack (.real m.riskScore)

section Parts

variable {room : Nat}

theorem PolicyDetails.readable {d : PolicyDetails} (hscore : Number.ReadsBack (.real d.riskScore)) :
    Readable (room + 2) d.toJson := by
  rw [toJson_eq]
  refine readable_present ?_
  have hmillis : Readable (room + 1) (ofNat d.millis.toNat) := readable_ofNat d.millis.toNat_lt
  simp [written, readable_ofStrings, readable_ofFloat hscore, hmillis]

theorem Usage.readable {u : Usage} (hcost : Number.ReadsBack (.real u.cost)) :
    Readable (room + 1) u.toJson := by
  rw [toJson_eq]
  refine readable_present ?_
  simp [written, readable_ofFloat hcost, readable_ofNat u.millis.toNat_lt,
    readable_ofNat u.tokens.toNat_lt, Readable.string]

theorem SecurityMetrics.readable {m : SecurityMetrics} (hm : m.IsWritable)
    (hscore : Number.ReadsBack (.real m.riskScore)) : Readable (room + 1) m.toJson := by
  rw [toJson_eq]
  refine readable_present ?_
  simp [written, readable_ofFloat hscore, readable_ofNat hm.count, Complexity.toJson, Readable.string,
    Readable.bool]

theorem AuditActor.readable (a : AuditActor) : Readable (room + 1) a.toJson := by
  rw [toJson_eq]
  refine readable_present ?_
  simp [written, Readable.string]

end Parts

namespace AuditEntry

variable {e : AuditEntry}

theorem IsLegible.readable (he : e.IsLegible) : Readable depthLimit e.toJson := by
  have hroom : Readable (124 + 3) (.object (present e.written)) := by
    refine readable_present ?_
    have hflags : Readable (124 + 2) (ofList e.flags ComplianceFlag.toJson) := by
      refine .array fun j hj => ?_
      obtain ⟨f, -, rfl⟩ := List.mem_map.1 hj
      exact .string f.word
    have hdetails : ∀ d, e.details = some d → Readable (124 + 2) d.toJson :=
      fun d hd => PolicyDetails.readable (he.details d hd)
    have husage : ∀ u, e.usage = some u → Readable (124 + 2) u.toJson :=
      fun u hu => Usage.readable (he.usage u hu)
    have hsecurity : ∀ m, e.security = some m → Readable (124 + 2) m.toJson :=
      fun m hm => SecurityMetrics.readable (he.tellable.security m hm) (he.security m hm)
    simpa [written, Identifier.toJson, ofInstant, Verdict.toJson, Readable.string, AuditActor.readable,
      readable_ofStrings, hflags] using ⟨hdetails, husage, hsecurity⟩
  rwa [toJson_eq]

theorem exists_text_eq (e : AuditEntry) : ∃ rest, e.toJson.text = '\x7b' :: '"' :: 'i' :: rest :=
  ⟨_, rfl⟩

end AuditEntry

namespace Journal

/-! ### The record of an entry -/

section Record

variable {e : AuditEntry}

/-- What stands on the line of an entry. -/
def recordOf (e : AuditEntry) : List UInt8 := Text.utf8 e.toJson.text

theorem lineOf_eq (e : AuditEntry) : lineOf e = recordOf e ++ [lineEnd] := by
  rw [lineOf, Text.toList_toUTF8, render, String.toList_ofList]
  rfl

theorem lineEnd_not_mem_recordOf (he : e.IsLegible) : lineEnd ∉ recordOf e := by
  intro hmem
  obtain ⟨c, hc, hbyte⟩ := List.mem_flatMap.1 hmem
  obtain ⟨-, hcode⟩ := Text.utf8EncodeChar_of_mem hbyte (by decide)
  have hnewline : c = '\n' := Char.toNat_inj.1 hcode
  exact he.readable.newline_not_mem (hnewline ▸ hc)

theorem entryOf?_eq (line : List UInt8) :
    entryOf? line = (Json.readFor AuditEntry.interest (charsOf line)).toOption.bind fun value =>
      (AuditEntry.ofJson value).toOption := by
  rw [entryOf?]
  cases Json.readFor AuditEntry.interest (charsOf line) <;> rfl

theorem charsOf_utf8 (cs : List Char) : charsOf (Text.utf8 cs) = cs := by
  rw [charsOf, Text.charsOf_utf8, List.flatMap_map]
  simp

theorem entryOf?_recordOf (he : e.IsLegible) : entryOf? (recordOf e) = some e := by
  rw [entryOf?_eq, recordOf, charsOf_utf8, readFor_text _ he.readable]
  change (AuditEntry.ofJson e.toJson).toOption = some e
  rw [AuditEntry.ofJson_toJson he.tellable]
  rfl

/-- Nothing but blanks. -/
def IsBlank (bytes : List UInt8) : Prop := ∀ b ∈ bytes, b ∈ [9, 10, 13, 32]

instance (bytes : List UInt8) : Decidable (IsBlank bytes) := List.decidableBAll _ bytes

theorem isBlank_append {first second : List UInt8} :
    IsBlank (first ++ second) ↔ IsBlank first ∧ IsBlank second :=
  List.forall_mem_append

theorem isBlank_utf8EncodeChar {c : Char} :
    IsBlank (String.utf8EncodeChar c) ↔ isBlankChar c = true := by
  constructor
  · intro h
    obtain ⟨b, hb⟩ := List.exists_mem_of_ne_nil _ (String.utf8EncodeChar_ne_nil (c := c))
    have hblank := h b hb
    simp only [List.mem_cons, List.not_mem_nil, or_false] at hblank
    have hcode (d : Char) (hd : b.toNat = d.toNat) (hsmall : b.toNat < 128) : c = d :=
      Char.toNat_inj.1 ((Text.utf8EncodeChar_of_mem hb hsmall).2.trans hd)
    rcases hblank with rfl | rfl | rfl | rfl
    · exact hcode '\t' rfl (by decide) ▸ rfl
    · exact hcode '\n' rfl (by decide) ▸ rfl
    · exact hcode '\r' rfl (by decide) ▸ rfl
    · exact hcode ' ' rfl (by decide) ▸ rfl
  · intro h
    simp only [isBlankChar, Bool.or_eq_true, decide_eq_true_eq] at h
    rcases h with ((rfl | rfl) | rfl) | rfl <;> decide

theorem isBlank_utf8 {cs : List Char} : IsBlank (Text.utf8 cs) ↔ ∀ c ∈ cs, isBlankChar c = true := by
  induction cs with
  | nil => simp [IsBlank]
  | cons c cs ih => rw [Text.utf8_cons, isBlank_append, isBlank_utf8EncodeChar, ih, List.forall_mem_cons]

theorem exists_utf8_of_isBlank {bytes : List UInt8} (hbytes : IsBlank bytes) :
    ∃ cs, bytes = Text.utf8 cs := by
  induction bytes with
  | nil => exact ⟨[], rfl⟩
  | cons b bytes ih =>
    obtain ⟨hb, hbytes⟩ := List.forall_mem_cons.1 hbytes
    obtain ⟨cs, rfl⟩ := ih hbytes
    simp only [List.mem_cons, List.not_mem_nil, or_false] at hb
    rcases hb with rfl | rfl | rfl | rfl
    · exact ⟨'\t' :: cs, rfl⟩
    · exact ⟨'\n' :: cs, rfl⟩
    · exact ⟨'\r' :: cs, rfl⟩
    · exact ⟨' ' :: cs, rfl⟩

theorem isBlank_of_charsOf {bytes : List UInt8} (h : ∀ c ∈ charsOf bytes, isBlankChar c = true) :
    IsBlank bytes := by
  induction bytes with
  | nil => exact nofun
  | cons b bytes ih =>
    rw [charsOf, Text.charsOf, Text.charsBehind, List.flatMap_cons, List.forall_mem_append] at h
    obtain ⟨hfirst, hrest⟩ := h
    cases hchar : (Text.firstChar b bytes).1 with
    | none =>
      rw [hchar] at hfirst
      exact absurd (hfirst 'x' List.mem_cons_self) (by decide)
    | some c =>
      rw [hchar] at hfirst
      obtain ⟨more, hc, hpassed⟩ := Text.exists_of_firstChar hchar
      have hblank := isBlank_utf8EncodeChar.2 (hfirst c List.mem_cons_self)
      rw [hc] at hblank
      obtain ⟨hb, -⟩ := List.forall_mem_cons.1 hblank
      -- A blank is a byte of its own.
      have hsmall : b.toNat < 128 := by
        simp only [List.mem_cons, List.not_mem_nil, or_false] at hb
        rcases hb with rfl | rfl | rfl | rfl <;> decide
      obtain ⟨hone, -⟩ := Text.utf8EncodeChar_of_mem (hc ▸ List.mem_cons_self) hsmall
      obtain ⟨-, rfl⟩ := List.cons_eq_cons.1 (hc.symm.trans hone)
      rw [hpassed] at hrest
      exact List.forall_mem_cons.2 ⟨hb, ih hrest⟩

theorem charsOf_append_recordOf (e : AuditEntry) (front : List UInt8) :
    charsOf (front ++ recordOf e) = charsOf front ++ e.toJson.text := by
  obtain ⟨rest, htext⟩ := e.exists_text_eq
  have hrecord : recordOf e = 123 :: Text.utf8 ('"' :: 'i' :: rest) := by
    rw [recordOf, htext]
    rfl
  have hown : charsOf (recordOf e) = e.toJson.text := charsOf_utf8 _
  rw [← hown, hrecord, charsOf, Text.charsOf_part (by decide), List.flatMap_append]
  rfl

/-- What stands in front of a record on its line makes it unreadable, unless it is blank. -/
theorem entryOf?_append (he : e.IsLegible) (front : List UInt8) :
    entryOf? (front ++ recordOf e) = if IsBlank front then some e else none := by
  rw [entryOf?_eq, charsOf_append_recordOf]
  split
  · rename_i hblank
    obtain ⟨cs, rfl⟩ := exists_utf8_of_isBlank hblank
    have hown := entryOf?_recordOf he
    rw [entryOf?_eq, recordOf, charsOf_utf8] at hown
    rw [charsOf_utf8, readFor_blanks _ (isBlank_utf8.1 hblank), hown]
  · rename_i hblank
    obtain ⟨rest, htext⟩ := e.exists_text_eq
    cases hread : Json.readFor AuditEntry.interest (charsOf front ++ e.toJson.text) with
    | error => rfl
    | ok value => exact absurd (isBlank_of_charsOf (blank_of_readFor he.readable htext rfl hread)) hblank

end Record

end Journal

end Governance

namespace Governance.Journal

/-!
## Lines of a journal

A file is what it was up to the last end of a line, and what stands behind it. Lines that are added leave
the first alone, and are read as the entries that they were written for; but the first of them is joined
with whatever stood behind the last end of a line, and is lost unless that is blank.
-/

/-! ### Parting bytes at the ends of lines -/

theorem splitLines_append (line first second : List UInt8) :
    splitLines line (first ++ lineEnd :: second) = splitLines line first ++ splitLines [] second := by
  induction first generalizing line with
  | nil => simp [splitLines]
  | cons b first ih =>
    rw [List.cons_append, splitLines, splitLines]
    split
    · rw [ih, List.cons_append]
    · exact ih _

theorem splitLines_of_not_mem {bytes : List UInt8} (hbytes : lineEnd ∉ bytes) (line : List UInt8) :
    splitLines line bytes = [line.reverse ++ bytes] := by
  induction bytes generalizing line with
  | nil => simp [splitLines]
  | cons b bytes ih =>
    rw [List.mem_cons, not_or] at hbytes
    rw [splitLines, if_neg (Ne.symm hbytes.1), ih hbytes.2, List.reverse_cons, List.append_assoc,
      List.singleton_append]

theorem entriesOf_append (first second : List UInt8) :
    entriesOf (first ++ lineEnd :: second) = entriesOf first ++ entriesOf second := by
  rw [entriesOf, linesOf, splitLines_append, List.filter_append, List.filterMap_append]
  rfl

/-- An empty line holds no entry, so that it does not matter that it is passed over. -/
theorem entriesOf_of_not_mem {bytes : List UInt8} (hbytes : lineEnd ∉ bytes) :
    entriesOf bytes = (entryOf? bytes).toList := by
  rw [entriesOf, linesOf, splitLines_of_not_mem hbytes, List.reverse_nil, List.nil_append]
  cases bytes with
  | nil => rfl
  | cons b bytes => cases hentry : entryOf? (b :: bytes) <;> simp [hentry]

/-! ### What stands behind the last end of a line -/

/-- The lines of a file that have ended. -/
def endedPart (bytes : List UInt8) : List UInt8 := bytes.rdropWhile (· ≠ lineEnd)

/-- What stands behind the last end of a line. -/
def tornPart (bytes : List UInt8) : List UInt8 := bytes.rtakeWhile (· ≠ lineEnd)

theorem lineEnd_not_mem_tornPart (bytes : List UInt8) : lineEnd ∉ tornPart bytes :=
  fun hmem => by simpa using List.mem_rtakeWhile_imp hmem

theorem entriesOf_endedPart_append (bytes added : List UInt8) :
    entriesOf (bytes ++ added) = entriesOf (endedPart bytes) ++ entriesOf (tornPart bytes ++ added) := by
  have hparts : endedPart bytes ++ tornPart bytes = bytes := List.rdropWhile_append_rtakeWhile
  rcases List.eq_nil_or_concat (endedPart bytes) with hnil | ⟨ended, last, hconcat⟩
  · rw [hnil, List.nil_append] at hparts
    rw [hnil, hparts]
    rfl
  · rw [List.concat_eq_append] at hconcat
    have hended : endedPart bytes ≠ [] := by simp [hconcat]
    have hlast : last = lineEnd := by
      have h : ¬decide ((endedPart bytes).getLast hended ≠ lineEnd) = true :=
        List.rdropWhile_last_not _ bytes hended
      simpa [hconcat] using h
    have hempty : entriesOf [] = [] := rfl
    rw [hconcat, hlast, entriesOf_append, hempty, List.append_nil, ← entriesOf_append]
    rw [hconcat, hlast, List.append_assoc, List.singleton_append] at hparts
    rw [← List.cons_append, ← List.append_assoc, hparts]

/-! ### Lines that are added -/

/-- What is read of the lines of entries behind something that stands on the first of them already. -/
def survivors (torn : List UInt8) : List AuditEntry → List AuditEntry
  | [] => (entryOf? torn).toList
  | e :: rest => if IsBlank torn then e :: rest else rest

theorem entriesOf_flatMap_lineOf {entries : List AuditEntry} (hentries : ∀ e ∈ entries, e.IsLegible) :
    entriesOf (entries.flatMap lineOf) = entries := by
  induction entries with
  | nil => rfl
  | cons e rest ih =>
    obtain ⟨he, hrest⟩ := List.forall_mem_cons.1 hentries
    rw [List.flatMap_cons, lineOf_eq, List.append_assoc, List.singleton_append, entriesOf_append,
      entriesOf_of_not_mem (lineEnd_not_mem_recordOf he), entryOf?_recordOf he, ih hrest]
    rfl

theorem entriesOf_torn_append {torn : List UInt8} (htorn : lineEnd ∉ torn) {entries : List AuditEntry}
    (hentries : ∀ e ∈ entries, e.IsLegible) :
    entriesOf (torn ++ entries.flatMap lineOf) = survivors torn entries := by
  cases entries with
  | nil => rw [List.flatMap_nil, List.append_nil, entriesOf_of_not_mem htorn]; rfl
  | cons e rest =>
    obtain ⟨he, hrest⟩ := List.forall_mem_cons.1 hentries
    have hline : lineEnd ∉ torn ++ recordOf e := by
      rw [List.mem_append, not_or]
      exact ⟨htorn, lineEnd_not_mem_recordOf he⟩
    have hparts : torn ++ (e :: rest).flatMap lineOf =
        (torn ++ recordOf e) ++ lineEnd :: rest.flatMap lineOf := by
      simp [lineOf_eq]
    rw [hparts, entriesOf_append, entriesOf_of_not_mem hline, entryOf?_append he,
      entriesOf_flatMap_lineOf hrest, survivors]
    split <;> rfl

/-- What a file holds after lines have been added to it. -/
theorem entriesOf_append_lines (bytes : List UInt8) {entries : List AuditEntry}
    (hentries : ∀ e ∈ entries, e.IsLegible) : entriesOf (bytes ++ entries.flatMap lineOf) =
      entriesOf (endedPart bytes) ++ survivors (tornPart bytes) entries := by
  rw [entriesOf_endedPart_append, entriesOf_torn_append (lineEnd_not_mem_tornPart bytes) hentries]

end Governance.Journal
