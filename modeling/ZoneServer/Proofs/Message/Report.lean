import Mathlib.Algebra.Order.BigOperators.Group.List
import Mathlib.Algebra.Order.Group.Nat
import ZoneServer.Message.Report
import ZoneServer.Proofs.Message.Admits
import ZoneServer.Proofs.Record.Fault
import ZoneServer.Proofs.Text.Split

/-!
# Lines and columns of a report

A line feed ends a line of a report and a tab stands between two of its columns. A label may hold either, since
it may hold any ASCII octet, and a report shows labels as they are. Nothing else in a report of a response that
was read holds one, so a report has the lines that it should have just if no label has a line feed, and a line the
columns that it should have just if no label in it has a tab (`Response.report_shows_answers`).
-/

namespace ZoneServer

/-! ## Texts without separators -/

namespace Text

/-- What a report is divided by. -/
def separators : List Char := ['\n', '\t']

/-- A text in which there is nothing that a report is divided by. -/
def Unbroken (text : String) : Prop := ∀ c ∈ separators, text.toList.count c = 0

-- by going through the separators, not through all characters
instance (text : String) : Decidable (Unbroken text) :=
  List.decidableBAll (fun c => text.toList.count c = 0) separators

theorem unbroken_append {s t : String} : Unbroken (s ++ t) ↔ Unbroken s ∧ Unbroken t := by
  simp only [Unbroken, String.toList_append, List.count_append, Nat.add_eq_zero_iff, forall_and]

theorem not_isDigit_of_separator {c : Char} (hc : c ∈ separators) : ¬ c.isDigit = true := by
  rcases List.mem_pair.1 hc with rfl | rfl
  · decide
  · decide

theorem count_toDigits {c : Char} (hc : c ∈ separators) (n : Nat) : (Nat.toDigits 10 n).count c = 0 := by
  refine List.count_eq_zero.2 fun hmem => not_isDigit_of_separator hc ?_
  exact Nat.isDigit_of_mem_toDigits (by decide) (by decide) hmem

theorem unbroken_toString (n : Nat) : Unbroken (toString n) := by
  intro c hc
  rw [Nat.toString_eq_repr, Nat.repr_eq_ofList_toDigits, String.toList_ofList, count_toDigits hc]

theorem ne_dot_of_separator {c : Char} (hc : c ∈ separators) : c ≠ '.' := by
  rintro rfl
  exact absurd hc (by decide)

end Text

open Text

theorem Ipv4.unbroken_text (address : Ipv4) : Unbroken address.text := by
  intro c hc
  rw [Ipv4.text, String.toList_ofList, count_intercalate_of_ne (ne_dot_of_separator hc), List.count_flatten]
  refine List.sum_eq_zero fun n hn => ?_
  obtain ⟨digits, hdigits, rfl⟩ := List.mem_map.1 hn
  obtain ⟨o, -, rfl⟩ := List.mem_map.1 hdigits
  exact count_toDigits hc o.toNat

theorem unbroken_truthText (b : Bool) : Unbroken (truthText b) := by
  cases b <;> decide

theorem Header.unbroken_report (h : Header) : Unbroken h.report := by
  unfold report
  simp only [unbroken_append, unbroken_toString, unbroken_truthText, and_true]
  decide

/-! ## What is in the columns -/

variable {c : Char}

/-- A name is shown with the separators that its labels have. -/
theorem Name.count_text (hc : c ∈ separators) (name : Name) :
    name.text.toList.count c = name.labels.flatten.count c := by
  unfold text
  split
  · rename_i hroot
    have hdot : Unbroken "." := by decide
    rw [List.isEmpty_iff.1 hroot, hdot c hc]
    rfl
  · rw [String.toList_ofList, count_intercalate_of_ne (ne_dot_of_separator hc)]

theorem Name.count_append_text (hc : c ∈ separators) {before : String} (h : Unbroken before) (name : Name) :
    (before ++ name.text).toList.count c = name.labels.flatten.count c := by
  rw [String.toList_append, List.count_append, h c hc, count_text hc, Nat.zero_add]

/-- The labels of the name in a payload. -/
def Payload.labels (p : Payload) : List Label := (p.name?.map Name.labels).getD []

/-- A payload as it is read has the separators of its name, and no others. -/
theorem Payload.count_report (hc : c ∈ separators) {p : Payload} (hvalid : p.Valid)
    (hcanonical : p.canonical = p) : p.report.toList.count c = p.labels.flatten.count c := by
  cases p with
  | address text =>
    -- the text of an address could be anything, but what is read is canonical
    obtain ⟨address, haddress⟩ := hvalid
    simp only [canonical, haddress, Option.map_some, Option.getD_some, Payload.address.injEq] at hcanonical
    have hunbroken : Unbroken (Payload.address text).report := by
      rw [← hcanonical]
      exact unbroken_append.2 ⟨by decide, address.unbroken_text⟩
    exact hunbroken c hc
  | mailExchange preference exchange =>
    have hunbroken : Unbroken ("MX " ++ toString preference.toNat ++ " ") :=
      unbroken_append.2 ⟨unbroken_append.2 ⟨by decide, unbroken_toString _⟩, by decide⟩
    exact Name.count_append_text hc hunbroken exchange
  | pointer target =>
    have hunbroken : Unbroken "PTR " := by decide
    exact Name.count_append_text hc hunbroken target
  | canonicalName target =>
    have hunbroken : Unbroken "CNAME " := by decide
    exact Name.count_append_text hc hunbroken target
  | other typeCode data =>
    have hunbroken : Unbroken (Payload.other typeCode data).report := by
      unfold report
      simp only [unbroken_append, unbroken_toString, and_true]
      decide
    exact hunbroken c hc

namespace Record

/-- The labels that a report shows of a record, one after another. -/
def labelText (r : Record) : List Char := r.owner.labels.flatten ++ r.payload.labels.flatten

/-- The columns in which a report shows a record. -/
def columns (r : Record) : List (List Char) :=
  [r.owner.text.toList, (toString r.ttl.toNat).toList, r.payload.report.toList]

theorem report_eq (r : Record) : r.report.toList = List.intercalate ['\t'] r.columns := by
  have htab : "\t".toList = ['\t'] := by decide
  simp only [report, columns, String.toList_append, htab, List.intercalate_cons_cons,
    List.intercalate_singleton, List.append_assoc]

variable {r : Record}

theorem count_columns (hc : c ∈ separators) (h : r.Settled) :
    r.columns.flatten.count c = r.labelText.count c := by
  have hpayload := Payload.count_report hc h.valid.payload (congrArg payload h.canonical)
  simp only [columns, labelText, List.flatten_cons, List.flatten_nil, List.append_nil, List.count_append,
    Name.count_text hc, unbroken_toString _ c hc, hpayload, Nat.zero_add]

theorem not_mem_columns_iff (hc : c ∈ separators) (h : r.Settled) :
    (∀ column ∈ r.columns, c ∉ column) ↔ c ∉ r.labelText := by
  rw [← List.count_eq_zero, ← count_columns hc h, List.count_eq_zero]
  simp only [List.mem_flatten, not_exists, not_and]

/-- There are two tabs in a line besides those that are in its labels. -/
theorem count_tab_report (h : r.Settled) :
    r.report.toList.count '\t' = 2 + r.labelText.count '\t' := by
  rw [report_eq, columns, count_intercalate_self, ← columns, count_columns (by decide) h]
  rfl

theorem count_newline_report (h : r.Settled) :
    r.report.toList.count '\n' = r.labelText.count '\n' := by
  rw [report_eq, count_intercalate_of_ne (by decide), count_columns (by decide) h]

/-- A line has the columns that it should have just if no label in it has a tab. -/
theorem splitOn_report_iff (h : r.Settled) :
    r.report.toList.splitOn '\t' = r.columns ↔ '\t' ∉ r.labelText := by
  have hne : r.columns ≠ [] := List.cons_ne_nil _ _
  rw [report_eq, splitOn_intercalate_iff hne]
  exact not_mem_columns_iff (by decide) h

end Record

/-! ## What is in the lines -/

namespace Response

variable {r : Response}

/-- The lines of a report. -/
def lines (r : Response) : List (List Char) :=
  r.header.report.toList :: r.answers.map fun answer => answer.report.toList

theorem report_eq (r : Response) : r.report.toList = List.intercalate ['\n'] (r.lines ++ [[]]) := by
  have hnewline : "\n".toList = ['\n'] := by decide
  have hlines : r.lines = r.reportLines.map String.toList := by
    rw [lines, reportLines, List.map_cons, List.map_map]
    rfl
  rw [report, String.toList_join, List.flatMap_map, hlines, ← flatMap_concat_separator, List.flatMap_map]
  simp only [String.toList_append, hnewline]

/-- There is a line feed after each line, besides those that are in the labels. -/
theorem count_newline_report (h : r.Settled) : r.report.toList.count '\n' =
    1 + r.answers.length + (r.answers.map fun answer => answer.labelText.count '\n').sum := by
  have hheader := r.header.unbroken_report '\n' (by decide)
  have hanswers : (r.answers.map fun answer => answer.report.toList.count '\n') =
      r.answers.map fun answer => answer.labelText.count '\n' :=
    List.map_congr_left fun answer hmem => Record.count_newline_report (h.answers answer hmem)
  rw [report_eq, lines, List.cons_append, count_intercalate_self, List.length_append, List.length_map,
    List.length_singleton, List.count_flatten, ← hanswers]
  simp only [List.map_cons, List.map_append, List.map_map, List.map_nil, List.sum_cons, List.sum_append,
    hheader, List.count_nil, List.sum_nil, Function.comp_def]
  omega

/-- A report has the lines that it should have just if no label has a line feed. -/
theorem splitOn_report_iff (h : r.Settled) : r.report.toList.splitOn '\n' = r.lines ++ [[]] ↔
    ∀ answer ∈ r.answers, '\n' ∉ answer.labelText := by
  have hheader := List.count_eq_zero.1 (r.header.unbroken_report '\n' (by decide))
  have hanswer : ∀ answer ∈ r.answers, '\n' ∉ answer.report.toList ↔ '\n' ∉ answer.labelText := by
    intro answer hmem
    rw [← List.count_eq_zero, Record.count_newline_report (h.answers answer hmem), List.count_eq_zero]
  have hne : r.lines ++ [[]] ≠ [] := List.append_ne_nil_of_right_ne_nil _ (List.cons_ne_nil _ _)
  rw [report_eq, splitOn_intercalate_iff hne, lines]
  constructor
  · intro hlines answer hmem
    refine (hanswer answer hmem).1 (hlines _ ?_)
    exact List.mem_append_left _ (List.mem_cons_of_mem _ (List.mem_map_of_mem hmem))
  · intro hlabels line hmem
    rcases List.mem_append.1 hmem with hline | hlast
    · rcases List.mem_cons.1 hline with hfirst | hline
      · rw [hfirst]
        exact hheader
      · obtain ⟨answer, hanswers, rfl⟩ := List.mem_map.1 hline
        exact (hanswer answer hanswers).2 (hlabels answer hanswers)
    · rw [List.mem_singleton.1 hlast]
      exact List.not_mem_nil

/-- The report of a response that was read has a line feed after the line of the header, one after the line of each
answer that the header announces, and those that are in labels. If there are none in labels, and only then, its
lines are the line of the header and those of the answers, in order. In the line of an answer there are two tabs
and those that are in its labels. If there are none in its labels, and only then, its columns are the owner, the
time to live and the payload. -/
theorem report_shows_answers {datagram : Octets} {length : Nat} (h : decode datagram length = .ok r) :
    r.answers.length = r.header.answerCount.toNat ∧
    r.report.toList.count '\n' = 1 + r.header.answerCount.toNat +
      (r.answers.map fun answer => answer.labelText.count '\n').sum ∧
    (r.report.toList.splitOn '\n' =
        (r.header.report.toList :: r.answers.map fun answer => answer.report.toList) ++ [[]] ↔
      ∀ answer ∈ r.answers, '\n' ∉ answer.labelText) ∧
    ∀ answer ∈ r.answers,
      answer.report.toList.count '\t' = 2 + answer.labelText.count '\t' ∧
      (answer.report.toList.splitOn '\t' = [answer.owner.text.toList, (toString answer.ttl.toNat).toList,
          answer.payload.report.toList] ↔ '\t' ∉ answer.labelText) := by
  have hsettled := settled_of_decode h
  refine ⟨hsettled.counted, ?_, splitOn_report_iff hsettled, ?_⟩
  · rw [← hsettled.counted]
    exact count_newline_report hsettled
  · intro answer hmem
    have hanswer := hsettled.answers answer hmem
    exact ⟨Record.count_tab_report hanswer, Record.splitOn_report_iff hanswer⟩

/-! ### Two responses with one answer -/

/-- A response with one answer and no question. -/
def ofAnswer (answer : Record) : Response := ⟨⟨⟨7, true, false, 0, 0, 1, 0, 0⟩, []⟩, [answer]⟩

theorem decode_ofAnswer {answer : Record} (h : answer.Valid) (hf : answer.payload.Faithful)
    (hroom : (ofAnswer answer).wireLength ≤ maxMessageSize) :
    decode (ofAnswer answer).wire (ofAnswer answer).wire.length = .ok (ofAnswer answer.canonical) := by
  have hvalid : (ofAnswer answer).Valid := by
    refine ⟨fun question hmem => absurd hmem List.not_mem_nil, fun record hmem => ?_⟩
    rwa [List.mem_singleton.1 hmem]
  have hfaithful : (ofAnswer answer).Faithful := by
    intro record hmem
    rwa [List.mem_singleton.1 hmem]
  exact decode_wire hvalid hfaithful hroom

/-- An answer whose owner has a dot in its only label. -/
def dottedAnswer : Record := ⟨⟨[['a', '.', 'b']]⟩, 1, 60, .mailExchange 10 ⟨[['c'], ['d']]⟩⟩

theorem report_dottedAnswer :
    decode (ofAnswer dottedAnswer).wire (ofAnswer dottedAnswer).wire.length = .ok (ofAnswer dottedAnswer) ∧
    (ofAnswer dottedAnswer).report.toList.splitOn '\n' =
      [(ofAnswer dottedAnswer).header.report.toList, dottedAnswer.report.toList, []] ∧
    dottedAnswer.report.toList.splitOn '\t' = ["a.b".toList, "60".toList, "MX 10 c.d".toList] := by
  have hvalid : dottedAnswer.Valid := ⟨Name.check_eq_ok.1 (by decide), Name.check_eq_ok.1 (by decide)⟩
  have hread := decode_ofAnswer hvalid trivial (by decide)
  obtain ⟨-, -, hlines, hanswers⟩ := report_shows_answers hread
  obtain ⟨-, hcolumns⟩ := hanswers dottedAnswer List.mem_cons_self
  refine ⟨hread, hlines.2 ?_, hcolumns.2 (by decide)⟩
  intro answer hmem
  rw [List.mem_singleton.1 hmem]
  decide

/-- An answer whose owner has the end of one line and the beginning of the next in its only label. -/
def forgedAnswer : Record := ⟨⟨["a\t60\tA 6.6.6.6\nb".toList]⟩, 1, 60, .address "1.2.3.4"⟩

/-- The octets of a response with this answer. -/
def forgedLine : Octets :=
  [0, 7, 4, 0, 0, 0, 0, 1, 0, 0, 0, 0] ++
    [16, 97, 9, 54, 48, 9, 65, 32, 54, 46, 54, 46, 54, 46, 54, 10, 98, 0] ++
    [0, 1, 0, 1, 0, 0, 0, 60, 0, 4, 1, 2, 3, 4]

/-- One answer is announced and read, and the report has a line for it and another one, with three columns each. -/
theorem report_forgedLine :
    decode forgedLine forgedLine.length = .ok (ofAnswer forgedAnswer) ∧
    (ofAnswer forgedAnswer).header.answerCount.toNat = 1 ∧
    (ofAnswer forgedAnswer).report =
      "id: 7, rcode: 0, authoritative: true, truncated: false, answers: 1\n" ++
        "a\t60\tA 6.6.6.6\n" ++ "b\t60\tA 1.2.3.4\n" ∧
    (ofAnswer forgedAnswer).report.toList.splitOn '\n' ≠
      ((ofAnswer forgedAnswer).header.report.toList ::
        (ofAnswer forgedAnswer).answers.map fun answer => answer.report.toList) ++ [[]] ∧
    forgedAnswer.report.toList.splitOn '\t' ≠ [forgedAnswer.owner.text.toList,
      (toString forgedAnswer.ttl.toNat).toList, forgedAnswer.payload.report.toList] := by
  have hvalid : forgedAnswer.Valid := ⟨Name.check_eq_ok.1 (by decide), ⟨1, 2, 3, 4⟩, by decide⟩
  have hcanonical : forgedAnswer.canonical = forgedAnswer := by rfl
  have hwire : (ofAnswer forgedAnswer).wire = forgedLine := by decide
  have hread := decode_ofAnswer hvalid trivial (by decide)
  rw [hwire, hcanonical] at hread
  have hsettled := settled_of_decode hread
  have hanswer := hsettled.answers forgedAnswer List.mem_cons_self
  refine ⟨hread, rfl, by rfl, ?_, ?_⟩
  · intro hlines
    exact absurd ((splitOn_report_iff hsettled).1 hlines forgedAnswer List.mem_cons_self) (by decide)
  · intro hcolumns
    exact absurd ((Record.splitOn_report_iff hanswer).1 hcolumns) (by decide)

end Response

end ZoneServer
