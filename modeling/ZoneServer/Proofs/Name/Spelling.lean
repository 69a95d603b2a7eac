import ZoneServer.Proofs.Name.Fault
import ZoneServer.Proofs.Text.Split

/-!
# Names that texts spell

Any text spells a name, whose labels are the parts between its dots; a dot at the end is not one of those. The
length octets of the labels stand where the dots were, so a name takes two octets more than its text, one
before the first label and one after the last. That is why a text may have 253 octets where a name may take
255 (`Name.ofString_spells_labels`).
-/

namespace ZoneServer

/-! ## Octets of texts -/

namespace Label

/-- With an octet for each part, the parts between the dots take one octet more than the text. -/
theorem sum_octetLength_splitOn (text : List Char) :
    ((text.splitOn '.').map fun part => octetLength part + 1).sum = octetLength text + 1 := by
  induction text with
  | nil => rfl
  | cons c text ih =>
    by_cases hc : c = '.'
    · have hdot : c.utf8Size = 1 := by
        rw [hc]
        rfl
      have hnil : octetLength [] = 0 := rfl
      rw [octetLength_cons, hdot, hc, Text.splitOn_cons_self, List.map_cons, List.sum_cons, ih, hnil,
        Nat.zero_add, Nat.add_assoc]
    · obtain ⟨part, parts, hparts⟩ := List.exists_cons_of_ne_nil (List.splitOn_ne_nil '.' text)
      rw [hparts, List.map_cons, List.sum_cons] at ih
      rw [Text.splitOn_cons_of_ne hc hparts, List.map_cons, List.sum_cons, octetLength_cons, octetLength_cons]
      omega

/-- 1 to 63 ASCII characters. -/
structure Proper (label : Label) : Prop where
  ne_nil : label ≠ []
  length_le : label.length ≤ 63
  ascii : ∀ c ∈ label, c.toNat < 128

theorem isValid_iff_proper {label : Label} : label.isValid = true ↔ label.Proper := by
  have hascii : label.isAscii = true ↔ ∀ c ∈ label, c.toNat < 128 := by simp [isAscii]
  rw [isValid_iff, hascii]
  constructor
  · rintro ⟨hne, hlength, hall⟩
    exact ⟨hne, hlength, hall⟩
  · rintro ⟨hne, hlength, hall⟩
    exact ⟨hne, hlength, hall⟩

instance (label : Label) : Decidable label.Proper := decidable_of_iff _ isValid_iff_proper

theorem isValid_eq_false_iff {label : Label} : label.isValid = false ↔ ¬ label.Proper := by
  rw [← isValid_iff_proper, Bool.not_eq_true]

end Label

namespace Name

/-! ## What a text spells -/

theorem withoutTrailingDot_spec (text : List Char) :
    text = withoutTrailingDot text ++ ['.'] ∨
      text = withoutTrailingDot text ∧ (withoutTrailingDot text).getLast? ≠ some '.' := by
  unfold withoutTrailingDot
  by_cases hdot : text.getLast? = some '.'
  · left
    obtain ⟨spelled, rfl⟩ := List.getLast?_eq_some_iff.1 hdot
    rw [if_pos hdot, List.dropLast_concat]
  · right
    rw [if_neg hdot]
    exact ⟨rfl, hdot⟩

theorem withoutTrailingDot_of_getLast? {text : List Char} (h : text.getLast? ≠ some '.') :
    withoutTrailingDot text = text := if_neg h

/-- The name that a text spells which has no dot at its end, or whose dot at the end has been taken away. -/
def ofSpelled (spelled : List Char) : Name :=
  if spelled = [] then root else ⟨spelled.splitOn '.'⟩

theorem ofString_eq (text : String) :
    ofString text = ofSpelled (withoutTrailingDot text.toList) := by
  unfold ofString ofSpelled
  cases withoutTrailingDot text.toList with
  | nil => rfl
  | cons c spelled => rfl

variable {spelled : List Char}

theorem labels_ofSpelled (h : spelled ≠ []) : (ofSpelled spelled).labels = spelled.splitOn '.' := by
  rw [ofSpelled, if_neg h]

theorem text_ofSpelled (spelled : List Char) :
    (ofSpelled spelled).text = if spelled = [] then "." else String.ofList spelled := by
  by_cases hnil : spelled = []
  · rw [ofSpelled, if_pos hnil, if_pos hnil]
    rfl
  · have hroot : ¬ isRoot ⟨spelled.splitOn '.'⟩ = true := by simp [isRoot]
    rw [ofSpelled, if_neg hnil, if_neg hnil, text, if_neg hroot, List.intercalate_splitOn]

/-- A name takes two octets more than the text that spells it. -/
theorem encodedLength_ofSpelled (h : spelled ≠ []) :
    (ofSpelled spelled).encodedLength = (String.ofList spelled).utf8ByteSize + 2 := by
  rw [encodedLength_eq_sum, labels_ofSpelled h, Label.sum_octetLength_splitOn]
  rfl

theorem valid_ofSpelled (h : spelled ≠ []) : (ofSpelled spelled).Valid ↔
    (String.ofList spelled).utf8ByteSize ≤ 253 ∧ ∀ part ∈ spelled.splitOn '.', Label.Proper part := by
  have hlength : (ofSpelled spelled).encodedLength ≤ maxNameLength ↔
      (String.ofList spelled).utf8ByteSize ≤ 253 := by
    rw [encodedLength_ofSpelled h, maxNameLength]
    omega
  have hparts : (∀ label ∈ (ofSpelled spelled).labels, label.isValid = true) ↔
      ∀ part ∈ spelled.splitOn '.', Label.Proper part := by
    simp only [labels_ofSpelled h, Label.isValid_iff_proper]
  rw [← hlength, ← hparts]
  exact ⟨fun hvalid => ⟨hvalid.length, hvalid.labels⟩, fun ⟨hlen, hlabels⟩ => ⟨hlabels, hlen⟩⟩

theorem valid_root : root.Valid := check_eq_ok.1 rfl

/-- What is in the way of a name is in the text that spells it: the first part that can be no label, or the
length of the whole. -/
theorem fault_ofSpelled {cause : EncodeError} : (ofSpelled spelled).Fault cause ↔ spelled ≠ [] ∧
    ((∃ before part after, spelled.splitOn '.' = before ++ part :: after ∧
        (∀ earlier ∈ before, Label.Proper earlier) ∧ ¬ Label.Proper part ∧
        cause = .invalidLabel part) ∨
      ((∀ part ∈ spelled.splitOn '.', Label.Proper part) ∧ 253 < (String.ofList spelled).utf8ByteSize ∧
        cause = .nameTooLong)) := by
  by_cases hnil : spelled = []
  · rw [ofSpelled, if_pos hnil]
    exact ⟨fun hfault => absurd valid_root hfault.not_valid, fun hspelled => absurd hnil hspelled.1⟩
  · have hlabels := labels_ofSpelled hnil
    have hlength := encodedLength_ofSpelled hnil
    constructor
    · intro hfault
      refine ⟨hnil, ?_⟩
      cases hfault with
      | @label before after part split valid invalid =>
        left
        refine ⟨before, part, after, hlabels.symm.trans split, ?_, ?_, rfl⟩
        · intro earlier hmem
          exact Label.isValid_iff_proper.1 (valid earlier hmem)
        · exact Label.isValid_eq_false_iff.1 invalid
      | length valid long =>
        right
        refine ⟨fun part hmem => ?_, ?_, rfl⟩
        · rw [← hlabels] at hmem
          exact Label.isValid_iff_proper.1 (valid part hmem)
        · rw [hlength, maxNameLength] at long
          omega
    · rintro ⟨-, ⟨before, part, after, hsplit, hproper, himproper, rfl⟩ | ⟨hproper, hlong, rfl⟩⟩
      · refine .label (hlabels.trans hsplit) ?_ (Label.isValid_eq_false_iff.2 himproper)
        intro earlier hmem
        exact Label.isValid_iff_proper.2 (hproper earlier hmem)
      · refine .length ?_ ?_
        · intro part hmem
          rw [hlabels] at hmem
          exact Label.isValid_iff_proper.2 (hproper part hmem)
        · rw [hlength, maxNameLength]
          omega

/-! ## Reading the text of a name again -/

/-- A valid name that a text spells is spelled again by the text that it has. -/
theorem ofString_text (h : (ofSpelled spelled).Valid) :
    ofString (ofSpelled spelled).text = ofSpelled spelled := by
  by_cases hnil : spelled = []
  · rw [hnil]
    rfl
  · -- a dot at the end would come after an empty label
    have hdot : spelled.getLast? ≠ some '.' := by
      intro hlast
      obtain ⟨before, rfl⟩ := List.getLast?_eq_some_iff.1 hlast
      have hempty : [] ∈ (ofSpelled (before ++ ['.'])).labels := by
        rw [labels_ofSpelled hnil, Text.splitOn_concat_separator]
        simp
      have hvalid := h.labels [] hempty
      cases hvalid
    rw [text_ofSpelled, if_neg hnil, ofString_eq, String.toList_ofList,
      withoutTrailingDot_of_getLast? hdot]

/-- Let any text be given, and let `spelled` be the text without the dot at its end, if it has one there. The
name that the text spells is shown as `spelled`, or as a dot if that is empty. It can be written if `spelled`
is empty, or has 253 octets at most and nothing but 1 to 63 ASCII characters between its dots. Otherwise it
fails for the first part that is not like that or, if there is none, for its length. A name that can be
written is spelled by the text that it is shown as, label by label, and it takes two octets more than
`spelled`, or a single zero octet if that is empty. -/
theorem ofString_spells_labels (text : String) :
    ∃ spelled : List Char,
      (text.toList = spelled ++ ['.'] ∨ text.toList = spelled ∧ spelled.getLast? ≠ some '.') ∧
      (ofString text).text = (if spelled = [] then "." else String.ofList spelled) ∧
      ((∃ os, Encoder.encode (ofString text).encode = .ok os) ↔ spelled = [] ∨
        ((String.ofList spelled).utf8ByteSize ≤ 253 ∧
          ∀ part ∈ spelled.splitOn '.', Label.Proper part)) ∧
      (∀ cause, Encoder.encode (ofString text).encode = .error cause ↔ spelled ≠ [] ∧
        ((∃ before part after, spelled.splitOn '.' = before ++ part :: after ∧
            (∀ earlier ∈ before, Label.Proper earlier) ∧ ¬ Label.Proper part ∧
            cause = .invalidLabel part) ∨
          ((∀ part ∈ spelled.splitOn '.', Label.Proper part) ∧
            253 < (String.ofList spelled).utf8ByteSize ∧ cause = .nameTooLong))) ∧
      ∀ os, Encoder.encode (ofString text).encode = .ok os →
        (ofString (ofString text).text).labels = (ofString text).labels ∧
        (spelled = [] → os = [0]) ∧
        (spelled ≠ [] → os.length = (String.ofList spelled).utf8ByteSize + 2) := by
  refine ⟨withoutTrailingDot text.toList, withoutTrailingDot_spec text.toList, ?_⟩
  rw [ofString_eq]
  generalize withoutTrailingDot text.toList = spelled
  refine ⟨text_ofSpelled spelled, ?_, ?_, ?_⟩
  · simp only [encode_eq_ok, exists_and_left, exists_eq, and_true]
    by_cases hnil : spelled = []
    · have hroot : (ofSpelled spelled).Valid := by
        rw [hnil]
        exact valid_root
      exact ⟨fun _ => .inl hnil, fun _ => hroot⟩
    · rw [valid_ofSpelled hnil]
      simp [hnil]
  · intro cause
    rw [encode_eq_error, check_eq_error, fault_ofSpelled]
  · intro os hos
    obtain ⟨hvalid, rfl⟩ := encode_eq_ok.1 hos
    refine ⟨congrArg labels (ofString_text hvalid), ?_, ?_⟩
    · rintro rfl
      rfl
    · intro hne
      rw [length_wire hvalid, encodedLength_ofSpelled hne]

theorem ofString_twoLabels : ∃ os, Encoder.encode (ofString "a.Bc.").encode = .ok os ∧
    os.length = 6 ∧ (ofString (ofString "a.Bc.").text).labels = [['a'], ['B', 'c']] := by
  obtain ⟨spelled, hspelled, -, hwritten, -, hread⟩ := ofString_spells_labels "a.Bc."
  have hshort : spelled = ['a', '.', 'B', 'c'] := by
    rcases hspelled with hdot | ⟨hplain, hlast⟩
    · exact (List.append_inj_left' hdot rfl).symm
    · rw [← hplain] at hlast
      exact absurd (by decide) hlast
  subst hshort
  obtain ⟨os, hos⟩ := hwritten.2 (.inr ⟨by decide, by decide⟩)
  obtain ⟨hlabels, -, hlength⟩ := hread os hos
  exact ⟨os, hos, hlength (by decide), hlabels⟩

end Name

end ZoneServer
