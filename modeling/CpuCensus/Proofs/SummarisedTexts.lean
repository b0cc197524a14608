import CpuCensus.Proofs.ProcessorBlocks
import CpuCensus.Proofs.ProcessorCounts
import CpuCensus.Proofs.TextReading
import Mathlib

/-!
# Summaries of arbitrary texts

A field of a text is a line with a colon: the key stands before the first colon and the value after
it, both without surrounding blanks. Whatever the text, well formed or not, the processors of its
summary are the fields with the key `processor`, and its vendor and its model are the first values
that are given for them, in a block or outside. Each section lists at most one processor, so there
are never more identifiers than processors, and a count that succeeds has counted every processor:
`summarised_by_fields`.
-/

namespace CpuCensus.Cpuinfo

/-! ### Fields -/

/-- A key and its value. -/
structure Field where
  key : String
  value : String
  deriving DecidableEq

/-- The field that a line holds, if it has a colon. -/
def field? (line : List Char) : Option Field :=
  if ':' ∈ line then
    some {
      key := String.ofList (Text.trimChars (line.takeWhile (· != ':')))
      value := String.ofList (Text.trimChars ((line.dropWhile (· != ':')).drop 1)) }
  else none

/-- The fields of a text, in order. -/
def fields (text : String) : List Field := (Text.lines text).filterMap field?

/-- The field gives a value, which is not blank, for one of the keys. -/
def Field.Gives (keys : List String) (f : Field) : Prop := f.key ∈ keys ∧ f.value ≠ ""

instance (keys : List String) (f : Field) : Decidable (f.Gives keys) :=
  inferInstanceAs (Decidable (_ ∧ _))

/-- The first value that is given for one of the keys. -/
def firstValue? (keys : List String) (fields : List Field) : Option String :=
  (fields.find? fun f => f.Gives keys).map Field.value

private theorem field?_of_notMem {line : List Char} (h : ':' ∉ line) :
    field? line = none := if_neg h

private theorem field?_append {key : List Char} (h : ':' ∉ key) (value : List Char) :
    field? (key ++ ':' :: value) = some {
      key := String.ofList (Text.trimChars key)
      value := String.ofList (Text.trimChars value) } := by
  have hkey : ∀ c ∈ key, (c != ':') = true := by
    intro c hc
    rw [bne_iff_ne]
    rintro rfl
    exact h hc
  rw [field?, if_pos (by simp), List.takeWhile_append_of_pos hkey,
    List.dropWhile_append_of_pos hkey]
  simp

private theorem firstValue?_cons (keys : List String) (f : Field) (fields : List Field) :
    firstValue? keys (f :: fields) =
      if f.Gives keys then some f.value else firstValue? keys fields := by
  unfold firstValue?
  rw [List.find?_cons]
  by_cases h : f.Gives keys <;> simp [h]

/-! ### What a field says to the reader -/

namespace Line

/-- A line with a field says what its key and its value say; any other is blank or says nothing. -/
theorem ofChars_cases (cs : List Char) :
    (∃ f, field? cs = some f ∧ ofChars cs = ofPair f.key f.value) ∨
    (field? cs = none ∧ (ofChars cs = .blank ∨ ofChars cs = .other)) := by
  rcases Text.splitAtFirst?_cases ':' cs with ⟨hnone, hsplit⟩ | ⟨key, value, rfl, hkey, hsplit⟩
  · refine .inr ⟨field?_of_notMem hnone, ?_⟩
    rw [ofChars, hsplit]
    exact ite_eq_or_eq _ _ _
  · refine .inl ⟨_, field?_append hkey value, ?_⟩
    rw [ofChars, hsplit]

private theorem ofPair_eq_processor_iff {key value : String} :
    ofPair key value = .processor ↔ key = "processor" := by
  unfold ofPair
  split <;> simp_all

private theorem count_processor_ofChars (lines : List (List Char)) :
    (lines.map ofChars).count .processor =
      (lines.filterMap field?).countP (·.key = "processor") := by
  rw [List.count, List.countP_map, List.countP_filterMap]
  refine List.countP_congr fun line _ => ?_
  rw [Function.comp_apply, beq_iff_eq]
  rcases ofChars_cases line with ⟨f, hf, hline⟩ | ⟨hf, hline⟩
  · simp [hf, hline, ofPair_eq_processor_iff]
  · rcases hline with hline | hline <;> simp [hf, hline]

end Line

/-! ### What the reader keeps of a line -/

private theorem length_blocks (lines : List Line) :
    (blocks lines).length = lines.count .processor := by
  fun_induction blocks lines with
  | case1 => rfl
  | case2 lines ih => rw [List.length_cons, ih, List.count_cons_self]
  | case3 line lines h ih => rw [ih, List.count_cons_of_ne h]

/-! ### Names -/

private theorem Progress.keepFirst_eq_or (known : Option String) (name : String) :
    keepFirst known name = known.or (keepFirst none name) := by
  rw [keepFirst, keepFirst, Option.none_or]

/-- The names that a summary keeps. -/
inductive Naming where
  | vendor
  | model

namespace Naming

/-- The keys under which the name is given. -/
def keys : Naming → List String
  | vendor => ["vendor_id"]
  | model => ["model name", "cpu"]

/-- The name as the summary keeps it. -/
def kept : Naming → Summary → Option String
  | vendor, s => s.vendor
  | model, s => s.model

/-- The name that a line gives, unless it is empty. -/
def told : Naming → Line → Option String
  | vendor, .vendor name | model, .model name => Progress.keepFirst none name
  | _, _ => none

variable (n : Naming)

private theorem told_ofPair (f : Field) :
    n.told (Line.ofPair f.key f.value) = if f.Gives n.keys then some f.value else none := by
  unfold Line.ofPair Field.Gives
  cases n <;> split <;> simp_all [told, keys, Progress.keepFirst]

/-- The lines tell a name where a field first gives it. -/
theorem findSome?_told (lines : List (List Char)) :
    (lines.map Line.ofChars).findSome? n.told = firstValue? n.keys (lines.filterMap field?) := by
  induction lines with
  | nil => rfl
  | cons line lines ih =>
    rw [List.map_cons, List.findSome?_cons]
    rcases Line.ofChars_cases line with ⟨f, hf, hline⟩ | ⟨hf, hline⟩
    · rw [hline, told_ofPair, List.filterMap_cons_some hf, firstValue?_cons, ← ih]
      by_cases h : f.Gives n.keys <;> simp [h]
    · -- Neither a blank line nor one that says nothing gives a name.
      have hnone : n.told (Line.ofChars line) = none := by
        rcases hline with hline | hline <;> rw [hline] <;> cases n <;> rfl
      rw [hnone, List.filterMap_cons_none hf]
      exact ih

private theorem kept_close (p : Progress) : n.kept p.close.summary = n.kept p.summary := by
  unfold Progress.close
  split <;> cases n <;> rfl

/-- One line tells a name only if none is known. -/
theorem kept_take (p : Progress) (line : Line) :
    n.kept (p.take line).summary = (n.kept p.summary).or (n.told line) := by
  cases line with
  | blank => simp [Progress.take, told, kept_close]
  | processor =>
    have hopen : n.kept p.close.openBlock.summary = n.kept p.close.summary := by cases n <;> rfl
    simp [Progress.take, told, hopen, kept_close]
  | vendor name =>
    cases n with
    | vendor => exact Progress.keepFirst_eq_or _ _
    | model => exact (Option.or_none).symm
  | model name =>
    cases n with
    | vendor => exact (Option.or_none).symm
    | model => exact Progress.keepFirst_eq_or _ _
  | _ => cases n <;> exact (Option.or_none).symm

/-- Of all lines the first to tell a name decides. -/
theorem kept_foldl_take (p : Progress) (lines : List Line) :
    n.kept (lines.foldl Progress.take p).summary =
      (n.kept p.summary).or (lines.findSome? n.told) := by
  induction lines generalizing p with
  | nil => simp
  | cons line lines ih =>
    rw [List.foldl_cons, ih, kept_take, Option.or_assoc, List.findSome?_cons]
    cases n.told line <;> rfl

/-- A summary keeps the first value that is given for a name. -/
theorem kept_parse (text : String) :
    n.kept (parse text) = firstValue? n.keys (fields text) := by
  rw [parse, kept_close, kept_foldl_take, findSome?_told, fields]
  cases n <;> rfl

end Naming

/-! ### What the summary of a text holds -/

private theorem processors_parse (text : String) :
    (parse text).processors = (fields text).countP (·.key = "processor") := by
  rw [(parse_of_sections text).2, length_blocks, Line.count_processor_ofChars, fields]

/-- A section lists at most one processor, and each processor has a section. -/
theorem length_ids_parse_le (text : String) :
    (parse text).ids.length ≤ (parse text).processors := by
  obtain ⟨hids, hprocessors⟩ := parse_of_sections text
  rw [hids, hprocessors, ← map_body_sectionsFrom false [], List.length_map]
  exact List.length_filterMap_le _ _

private theorem die_cluster_of_idOf {lines : List Line} {id : ProcessorId}
    (h : idOf lines = some id) :
    id.die = 0 ∧ id.cluster = 0 := by
  obtain ⟨package, -, h⟩ := Option.bind_eq_some_iff.mp h
  obtain ⟨core, -, rfl⟩ := Option.map_eq_some_iff.mp h
  exact ⟨rfl, rfl⟩

private theorem die_cluster_of_mem_ids {text : String} {id : ProcessorId}
    (h : id ∈ (parse text).ids) :
    id.die = 0 ∧ id.cluster = 0 := by
  rw [(parse_of_sections text).1] at h
  obtain ⟨s, -, hs⟩ := List.mem_filterMap.mp h
  exact die_cluster_of_idOf hs

namespace Summary

variable {s : Summary}

private theorem counts_ne_malformed (s : Summary) (source reason : String) :
    s.counts ≠ .error (.malformed source reason) := by
  intro h
  rcases s.counts_cases with ⟨⟨hne, -⟩, hcounts⟩ | ⟨-, hcounts⟩
  · rw [hcounts, Counts.ofProcessors_of_ne_nil _ hne] at h
    cases h
  · rw [hcounts] at h
    cases h

/-- A count that succeeds is one of a list with an identifier for every processor. -/
theorem counts_eq_ok_iff {c : Counts} :
    s.counts = .ok c ↔
      s.ids.length = s.processors ∧ Counts.ofProcessors "/proc/cpuinfo" s.ids = .ok c := by
  rcases s.counts_cases with ⟨⟨-, hlength⟩, hcounts⟩ | ⟨hnot, hcounts⟩
  · rw [hcounts]
    exact (and_iff_right hlength).symm
  · refine iff_of_false ?_ ?_
    · intro h
      rw [hcounts] at h
      cases h
    · rintro ⟨hlength, h⟩
      exact hnot ⟨Counts.ne_nil_of_ofProcessors h, hlength⟩

/-- Processors are counted exactly if there is one and all have their identifiers. -/
theorem exists_counts_eq_ok_iff (s : Summary) :
    (∃ c, s.counts = .ok c) ↔ 0 < s.processors ∧ s.ids.length = s.processors := by
  simp only [counts_eq_ok_iff]
  constructor
  · rintro ⟨c, hlength, h⟩
    rw [← hlength]
    exact ⟨List.length_pos_iff.mpr (Counts.ne_nil_of_ofProcessors h), rfl⟩
  · rintro ⟨hpos, hlength⟩
    rw [← hlength] at hpos
    exact ⟨_, hlength, Counts.ofProcessors_of_ne_nil _ (List.length_pos_iff.mp hpos)⟩

private theorem threads_of_counts {c : Counts} (h : s.counts = .ok c) :
    c.threads = capped s.processors := by
  obtain ⟨hlength, hc⟩ := counts_eq_ok_iff.mp h
  rw [Counts.ofProcessors_of_ne_nil _ (Counts.ne_nil_of_ofProcessors hc)] at hc
  cases hc
  rw [hlength]

theorem ordered_of_counts {c : Counts} (h : s.counts = .ok c) : c.Ordered :=
  Counts.ordered_of_ofProcessors (counts_eq_ok_iff.mp h).2

end Summary

/-! ### Main statement -/

/-- Every text has no more identifiers than processors, none of which tells a die or a cluster. Its
processors are its fields with the key `processor`; its vendor and its model are the first values
that are given for them, wherever these stand. The count is never that of a malformed source; it
succeeds exactly if there is a processor and all have their identifiers, and then it has as many
hardware threads as there are processors, up to the largest number that is reported, and from one
socket up no more sockets than cores and no more cores than hardware threads. -/
theorem summarised_by_fields (text : String) :
    (parse text).ids.length ≤ (parse text).processors ∧
    (∀ id ∈ (parse text).ids, id.die = 0 ∧ id.cluster = 0) ∧
    (parse text).processors = (fields text).countP (·.key = "processor") ∧
    (parse text).vendor = firstValue? ["vendor_id"] (fields text) ∧
    (parse text).model = firstValue? ["model name", "cpu"] (fields text) ∧
    (∀ source reason, (parse text).counts ≠ .error (.malformed source reason)) ∧
    ((∃ c, (parse text).counts = .ok c) ↔
      0 < (parse text).processors ∧ (parse text).ids.length = (parse text).processors) ∧
    ∀ c, (parse text).counts = .ok c →
      c.threads = min (parse text).processors (2 ^ 32 - 1) ∧
      1 ≤ c.sockets ∧ c.sockets ≤ c.cores ∧ c.cores ≤ c.threads := by
  refine ⟨length_ids_parse_le text, fun id => die_cluster_of_mem_ids, processors_parse text,
    Naming.vendor.kept_parse text, Naming.model.kept_parse text, (parse text).counts_ne_malformed,
    (parse text).exists_counts_eq_ok_iff, ?_⟩
  intro c hc
  have hordered := Summary.ordered_of_counts hc
  exact ⟨Summary.threads_of_counts hc, hordered.sockets_pos, hordered.sockets_le_cores,
    hordered.cores_le_threads⟩

/-- Two processors: the first has its package before its block, the second all it tells before its
own. The names stand outside the blocks, after blank ones. -/
def disorderedList : String :=
  "cpu:\ncpu: A\nphysical id: 1\nprocessor\t: 0\ncore id: +2\nvendor_id:  \n\n" ++
    "core id: 7\nphysical id: 1\nprocessor\nvendor_id: V: W \nprocessor: 1"

theorem disordered_list_summarised :
    (parse disorderedList).processors = 2 ∧
    (parse disorderedList).ids = [{ package := 1, core := 2 }, { package := 1, core := 7 }] ∧
    (parse disorderedList).vendor = some "V: W" ∧ (parse disorderedList).model = some "A" ∧
    (parse disorderedList).counts = .ok { threads := 2, cores := 2, sockets := 1 } ∧
    2 = min (parse disorderedList).processors (2 ^ 32 - 1) := by
  have hfields : fields disorderedList =
      [⟨"cpu", ""⟩, ⟨"cpu", "A"⟩, ⟨"physical id", "1"⟩, ⟨"processor", "0"⟩, ⟨"core id", "+2"⟩,
        ⟨"vendor_id", ""⟩, ⟨"core id", "7"⟩, ⟨"physical id", "1"⟩, ⟨"vendor_id", "V: W"⟩,
        ⟨"processor", "1"⟩] := by decide +kernel
  have hids : (parse disorderedList).ids =
      [{ package := 1, core := 2 }, { package := 1, core := 7 }] := by decide +kernel
  obtain ⟨-, -, hprocessors, hvendor, hmodel, -, -, hcounted⟩ := summarised_by_fields disorderedList
  rw [hfields] at hprocessors hvendor hmodel
  have hcounts : (parse disorderedList).counts =
      .ok { threads := 2, cores := 2, sockets := 1 } := by
    rw [Summary.counts, hids, hprocessors]
    rfl
  exact ⟨hprocessors, hids, hvendor, hmodel, hcounts, (hcounted _ hcounts).1⟩

end CpuCensus.Cpuinfo
