import BoxedDeduction.Proofs.Proof.Operations

/-!
# Scopes keep the order of insertion

A scope is a map from indices to lines that remembers in which order they were inserted. The record
of the calls on a scope tells which lines are live: those that were inserted with success and not
removed since. After any calls, failed ones included, the scope holds the live lines in the order in
which they were last inserted, whatever their indices are. Displaying sorts them by index, and
folding the scope into a sub-proof keeps them as they stand.
-/

namespace BoxedDeduction

namespace Scope

/-! ## Calls and their record -/

/-- A call that may change a scope. -/
inductive Call where
  /-- Insert a line under its index. -/
  | insert (line : Line)
  /-- Remove the line under an index. -/
  | remove (index : Int)
  deriving DecidableEq

/-- What a scope answers to a call. -/
inductive Answer where
  /-- The line was inserted. -/
  | inserted
  /-- The line was not inserted. -/
  | refused (fault : StateFault)
  /-- The line was removed. -/
  | removed (line : Line)
  /-- There was no line to remove. -/
  | missing
  deriving DecidableEq

/-- A call with its answer. -/
structure Entry where
  /-- The call. -/
  call : Call
  /-- The answer. -/
  answer : Answer
  deriving DecidableEq

/-- The scope after a call, with the answer. -/
def perform (scope : Scope) : Call → Scope × Answer
  | .insert line =>
    match scope.insert line with
    | .ok next => (next, .inserted)
    | .error fault => (scope, .refused fault)
  | .remove index =>
    match scope.remove? index with
    | some (line, next) => (next, .removed line)
    | none => (scope, .missing)

/-- The scope after calls. -/
def after (scope : Scope) : List Call → Scope
  | [] => scope
  | call :: later => (scope.perform call).1.after later

/-- The record of calls. -/
def record (scope : Scope) : List Call → List Entry
  | [] => []
  | call :: later => ⟨call, (scope.perform call).2⟩ :: (scope.perform call).1.record later

/-- The line that a call inserted. -/
def Entry.inserted? : Entry → Option Line
  | ⟨.insert line, .inserted⟩ => some line
  | _ => none

/-- The index under which a call removed a line. -/
def Entry.removed? : Entry → Option Int
  | ⟨.remove index, .removed _⟩ => some index
  | _ => none

/-- Whether a line was inserted under an index. -/
def Inserted (index : Int) (record : List Entry) : Prop :=
  ∃ entry ∈ record, ∃ line, entry.inserted? = some line ∧ line.index = index

/-- Whether a line was removed under an index. -/
def Removed (index : Int) (record : List Entry) : Prop :=
  ∃ entry ∈ record, entry.removed? = some index

instance (index : Int) (record : List Entry) : Decidable (Removed index record) :=
  inferInstanceAs (Decidable (∃ entry ∈ record, entry.removed? = some index))

/-- The lines that are left of earlier ones after the recorded calls. -/
def kept (record : List Entry) (lines : List Line) : List Line :=
  lines.filter fun line => ¬Removed line.index record

/-- The lines that were inserted and not removed since, in the order of insertion. -/
def live : List Entry → List Line
  | [] => []
  | entry :: later =>
    match entry.inserted? with
    | some line => if Removed line.index later then live later else line :: live later
    | none => live later

/-- The record of lines that were all inserted. -/
def insertions (lines : List Line) : List Entry :=
  lines.map fun line => ⟨.insert line, .inserted⟩

/-! ## Scopes with distinct indices -/

variable {scope : Scope} {line : Line} {index : Int}

/-- An index is in use when a line stands under it. -/
theorem contains_eq_true : scope.contains index = true ↔ index ∈ scope.indices := by
  simp only [contains, indices, List.any_eq_true, beq_iff_eq, List.mem_map]

/-- Among lines with distinct indices, taking away the one under an index leaves those under
others. -/
theorem eraseP_eq_filter {lines : List Line} (h : (lines.map Line.index).Nodup) :
    lines.eraseP (·.index == index) = lines.filter (·.index ≠ index) := by
  induction lines with
  | nil => rfl
  | cons first later ih =>
    rw [List.map_cons,List.nodup_cons] at h
    by_cases hf : first.index = index
    · subst hf
      have hk : later.filter (·.index ≠ first.index) = later := by
        rw [List.filter_eq_self]
        intro other ho
        exact decide_eq_true fun he => h.1 (he ▸ List.mem_map_of_mem ho)
      rw [List.eraseP_cons_of_pos (by simp),List.filter_cons_of_neg (by simp),hk]
    · rw [List.eraseP_cons_of_neg (by simpa using hf),List.filter_cons_of_pos (by simpa using hf),
        ih h.2]

/-- What a call does to a scope with distinct indices. -/
inductive Performs (scope : Scope) : Call → Scope → Answer → Prop where
  /-- A line under an index that is not in use is put at the end. -/
  | inserted {line : Line} (hu : line.index ∉ scope.indices) :
    Performs scope (.insert line) (scope.append line) .inserted
  /-- A line under an index that is in use is refused. -/
  | refused {line : Line} (hi : line.index ∈ scope.indices) :
    Performs scope (.insert line) scope (.refused (.indexInUse line.index))
  /-- The line under an index is taken away from among the others. -/
  | removed {line : Line} (hl : line ∈ scope.lines) :
    Performs scope (.remove line.index) ⟨scope.lines.filter (·.index ≠ line.index)⟩
      (.removed line)
  /-- Under an index that is not in use there is nothing to take away. -/
  | missing {index : Int} (hu : index ∉ scope.indices) :
    Performs scope (.remove index) scope .missing

/-- Every call does one of these. -/
theorem performs (h : scope.indices.Nodup) (call : Call) :
    scope.Performs call (scope.perform call).1 (scope.perform call).2 := by
  cases call with
  | insert line =>
    by_cases hi : line.index ∈ scope.indices
    · rw [perform,insert,if_pos (contains_eq_true.mpr hi)]
      exact .refused hi
    · rw [perform,insert,if_neg (mt contains_eq_true.mp hi)]
      exact .inserted hi
  | remove index =>
    rw [perform,remove?]
    cases hg : scope.get? index with
    | none =>
      refine .missing ?_
      intro hi
      obtain ⟨line, hl, he⟩ := List.mem_map.mp hi
      have hn := List.find?_eq_none.mp hg line hl
      exact hn (beq_iff_eq.mpr he)
    | some line =>
      obtain ⟨hl, rfl⟩ := mem_of_get?_eq_some hg
      rw [Option.map_some,erase,eraseP_eq_filter h]
      exact .removed hl

/-- A call keeps the indices distinct. -/
theorem Performs.nodup {next : Scope} {call : Call} {answer : Answer}
    (hp : scope.Performs call next answer) (h : scope.indices.Nodup) : next.indices.Nodup := by
  cases hp with
  | inserted hu =>
    rw [indices,append,List.map_append,List.map_singleton,List.nodup_append]
    refine ⟨h, List.pairwise_singleton _ _, ?_⟩
    rintro old ho _ hm rfl
    exact hu (List.mem_singleton.mp hm ▸ ho)
  | refused hi => exact h
  | removed hl => exact h.sublist (List.filter_sublist.map _)
  | missing hu => exact h

/-- Lines that were all inserted have distinct indices. -/
theorem nodup_of_insertAll {lines : List Line} {result : Scope} (h : scope.indices.Nodup)
    (hr : scope.insertAll lines = .ok result) : result.indices.Nodup := by
  induction lines generalizing scope with
  | nil =>
    cases hr
    exact h
  | cons line later ih =>
    rw [insertAll] at hr
    have hp := performs h (.insert line)
    rw [perform] at hp
    cases hi : scope.insert line with
    | error fault =>
      rw [hi] at hr
      cases hr
    | ok next =>
      rw [hi] at hr hp
      exact ih (hp.nodup h) hr

/-! ## Live lines -/

section Live

variable {entry : Entry} {earlier later : List Entry} {lines : List Line}

/-- Nothing is removed as long as there are no calls. -/
theorem not_removed_nil (index : Int) : ¬Removed index [] := by
  rintro ⟨_, hm, -⟩
  cases hm

/-- Lines are removed by the first call or by a later one. -/
theorem removed_cons :
    Removed index (entry :: later) ↔ entry.removed? = some index ∨ Removed index later := by
  simp only [Removed, List.mem_cons, exists_eq_or_imp]

/-- Without calls all lines are left. -/
theorem kept_nil (lines : List Line) : kept [] lines = lines := by
  rw [kept,List.filter_eq_self]
  exact fun line _ => decide_eq_true (not_removed_nil line.index)

/-- What is left of lines one behind the other is what is left of each. -/
theorem kept_append (record : List Entry) (lines more : List Line) :
    kept record (lines ++ more) = kept record lines ++ kept record more :=
  List.filter_append lines more

/-- A call that removes no line leaves all lines to the later calls. -/
theorem kept_cons_of_none (h : entry.removed? = none) (lines : List Line) :
    kept (entry :: later) lines = kept later lines := by
  simp only [kept, removed_cons, h, reduceCtorEq, false_or]

/-- A call that removes a line leaves those under other indices to the later calls. -/
theorem kept_cons_of_some (h : entry.removed? = some index) (lines : List Line) :
    kept (entry :: later) lines = kept later (lines.filter (·.index ≠ index)) := by
  rw [kept,kept,List.filter_filter]
  refine List.filter_congr fun line _ => ?_
  simp only [removed_cons, h, Option.some.injEq, not_or, Bool.decide_and, eq_comm (a := index),
    Bool.and_comm]

/-- A call that inserts no line adds no live line. -/
theorem live_cons_of_none (h : entry.inserted? = none) : live (entry :: later) = live later := by
  rw [live,h]

/-- A line that a call inserts is live if it is left after the later calls. -/
theorem live_cons_of_some (h : entry.inserted? = some line) :
    live (entry :: later) = kept later [line] ++ live later := by
  rw [live,h,kept]
  by_cases hr : Removed line.index later
  · rw [List.filter_cons_of_neg (by simpa using hr)]
    exact if_pos hr
  · rw [List.filter_cons_of_pos (by simpa using hr)]
    exact if_neg hr

/-- A line that is not removed later is live. -/
theorem live_cons_of_kept (h : entry.inserted? = some line) (hr : ¬Removed line.index later) :
    live (entry :: later) = line :: live later := by
  rw [live,h]
  exact if_neg hr

/-- The live lines of a record end with those of its end. -/
theorem live_suffix (earlier later : List Entry) : live later <:+ live (earlier ++ later) := by
  induction earlier with
  | nil => exact List.suffix_rfl
  | cons entry rest ih =>
    rw [List.cons_append]
    cases h : entry.inserted? with
    | none => rwa [live_cons_of_none h]
    | some line =>
      rw [live_cons_of_some h]
      exact ih.trans (List.suffix_append _ _)

/-- A line that was inserted and not removed since is live. -/
theorem mem_live (h : entry.inserted? = some line) (hr : ¬Removed line.index later)
    (earlier : List Entry) : line ∈ live (earlier ++ entry :: later) := by
  refine (live_suffix earlier _).subset ?_
  rw [live_cons_of_kept h hr]
  exact List.mem_cons_self

/-- When the live lines have distinct indices, none of them was inserted again. -/
theorem not_inserted_of_nodup (h : entry.inserted? = some line) (hr : ¬Removed line.index later)
    (hd : ((live (earlier ++ entry :: later)).map Line.index).Nodup) :
    ¬Inserted line.index later := by
  rintro ⟨again, ha, other, ho, hi⟩
  obtain ⟨between, last, rfl⟩ := List.append_of_mem ha
  -- What was inserted again was not removed either, so both lines would be live.
  have hl : ¬Removed other.index last := by
    rw [hi]
    rintro ⟨entry, he, hx⟩
    exact hr ⟨entry, List.mem_append_right _ (List.mem_cons_of_mem _ he), hx⟩
  have hm : line.index ∈ (live (between ++ again :: last)).map Line.index :=
    hi ▸ List.mem_map_of_mem (mem_live ho hl between)
  have hs := ((live_suffix earlier _).sublist.map Line.index).nodup hd
  rw [live_cons_of_kept h hr,List.map_cons,List.nodup_cons] at hs
  exact hs.1 hm

/-- Insertions remove nothing. -/
theorem kept_insertions (inserted lines : List Line) (later : List Entry) :
    kept (insertions inserted ++ later) lines = kept later lines := by
  induction inserted with
  | nil => rfl
  | cons first rest ih => exact (kept_cons_of_none rfl lines).trans ih

/-- Of lines that were all inserted those are live that are left after the later calls. -/
theorem live_insertions (lines : List Line) (later : List Entry) :
    live (insertions lines ++ later) = kept later lines ++ live later := by
  induction lines with
  | nil => rfl
  | cons first rest ih =>
    have hc : live (insertions (first :: rest) ++ later) =
        kept (insertions rest ++ later) [first] ++ live (insertions rest ++ later) :=
      live_cons_of_some rfl
    rw [hc,kept_insertions,ih,← List.append_assoc,← kept_append,List.singleton_append]

end Live

/-! ## The scope after calls -/

/-- After calls a scope with distinct indices holds what is left of its lines and behind them the
live lines, and its indices are distinct again. -/
theorem lines_after (h : scope.indices.Nodup) (calls : List Call) :
    (scope.after calls).indices.Nodup ∧ (scope.after calls).lines =
      kept (scope.record calls) scope.lines ++ live (scope.record calls) := by
  induction calls generalizing scope with
  | nil =>
    refine ⟨h, ?_⟩
    rw [after,record,kept_nil,live,List.append_nil]
  | cons call later ih =>
    have hp := performs h call
    rw [after,record]
    generalize scope.perform call = result at hp ⊢
    obtain ⟨next, answer⟩ := result
    obtain ⟨hd, hl⟩ := ih (hp.nodup h)
    refine ⟨hd, hl.trans ?_⟩
    dsimp only at hp ⊢
    cases hp with
    | inserted hu =>
      -- The new line stands behind those that were there, and in front of all that come later.
      rw [kept_cons_of_none rfl,live_cons_of_some rfl,append,kept_append,List.append_assoc]
    | refused hi => rw [kept_cons_of_none rfl,live_cons_of_none rfl]
    | removed hm => rw [kept_cons_of_some rfl,live_cons_of_none rfl]
    | missing hu => rw [kept_cons_of_none rfl,live_cons_of_none rfl]

/-! ## Displaying and folding -/

/-- What is displayed of a scope with distinct indices is the one arrangement of its lines with
increasing indices. -/
theorem eq_sorted_iff (h : scope.indices.Nodup) {lines : List Line} : lines = scope.sorted ↔
    lines.Perm scope.lines ∧ (lines.map Line.index).Pairwise (· < ·) := by
  have hp : scope.sorted.Perm scope.lines := List.mergeSort_perm _ _
  have hs : (scope.sorted.map Line.index).Pairwise (· < ·) := by
    have hle : (scope.sorted.map Line.index).Pairwise (· ≤ ·) := by
      rw [List.pairwise_map]
      refine (List.pairwise_mergeSort ?_ ?_ scope.lines).imp of_decide_eq_true
      · intro first second third hf hs
        exact decide_eq_true (Int.le_trans (of_decide_eq_true hf) (of_decide_eq_true hs))
      · intro first second
        simpa using Int.le_total first.index second.index
    have hne : (scope.sorted.map Line.index).Nodup := (hp.map Line.index).nodup_iff.mpr h
    exact (hle.and hne).imp Int.lt_iff_le_and_ne.mpr
  constructor
  · rintro rfl
    exact ⟨hp, hs⟩
  · rintro ⟨hl, hi⟩
    refine List.Perm.eq_of_pairwise ?_ (List.pairwise_map.mp hi) (List.pairwise_map.mp hs)
      (hl.trans hp.symm)
    intro first second _ _ hlt hgt
    exact absurd hgt (Int.lt_asymm hlt)

/-- The lines of a scope that is not empty are folded into a sub-proof that begins with the first
and ends with the last of them. With distinct indices it unfolds into the scope. -/
theorem exists_folded (h : scope.indices.Nodup) (hn : scope.lines ≠ []) :
    ∃ steps first last, scope.toSubProof? = some steps ∧ ofSubProof steps = .ok scope ∧
      scope.first? = some first ∧ scope.last? = some last ∧
      steps.start = first.index ∧ steps.assumption = first.prop ∧ steps.derived = last.prop := by
  obtain ⟨first, later, hl⟩ := List.exists_cons_of_ne_nil hn
  have hf : scope.toSubProof? = some (SubProof.ofLines first later) := by rw [toSubProof?,hl]; rfl
  have ht := toSubProof?_eq_some.mp hf
  refine ⟨_, _, (SubProof.ofLines first later).lastLine, hf, ?_, ?_, ?_, rfl, rfl, rfl⟩
  · have hi : empty.insertAll scope.lines = .ok ⟨scope.lines⟩ := insertAll_of_nodup h
    rw [ofSubProof,ht]
    exact hi
  · rw [first?,hl,SubProof.firstLine_ofLines]
    rfl
  · rw [last?,← ht,SubProof.getLast?_toList]

/-! ## Ordered maps -/

/-- How a scope and the record of the calls on it agree. -/
structure KeepsOrder (scope : Scope) (record : List Entry) : Prop where
  /-- The scope holds the live lines in the order in which they were inserted. -/
  items : scope.lines = live record
  /-- No index is used twice. -/
  distinct : scope.indices.Nodup
  /-- A live line was not inserted again, so its place is that of the latest insertion under its
  index. -/
  latest : ∀ earlier entry later line, record = earlier ++ entry :: later →
    entry.inserted? = some line → ¬Removed line.index later → ¬Inserted line.index later
  /-- The first line is the live one that was inserted first. -/
  first : scope.first? = (live record).head?
  /-- The last line is the live one that was inserted last. -/
  last : scope.last? = (live record).getLast?
  /-- A line is refused when its index is in use, and then nothing changes. Otherwise it is put at
  the end. -/
  insertion : ∀ line, scope.perform (.insert line) =
    if line.index ∈ scope.indices then (scope, .refused (.indexInUse line.index))
    else (⟨scope.lines ++ [line]⟩, .inserted)
  /-- The line under an index is taken away from among the others. Without such a line nothing
  changes. -/
  removal : ∀ index, (∃ line ∈ scope.lines, line.index = index ∧ scope.perform (.remove index) =
      (⟨scope.lines.filter (·.index ≠ index)⟩, .removed line)) ∨
    index ∉ scope.indices ∧ scope.perform (.remove index) = (scope, .missing)
  /-- What is displayed are the same lines with increasing indices. -/
  displayed : ∀ lines, lines = scope.sorted ↔
    lines.Perm scope.lines ∧ (lines.map Line.index).Pairwise (· < ·)
  /-- A scope that is not empty is folded into a sub-proof that unfolds into it again. The sub-proof
  has its index and its assumption from the first live line and what it derives from the last. -/
  folded : scope.lines ≠ [] → ∃ steps first last, scope.toSubProof? = some steps ∧
    ofSubProof steps = .ok scope ∧ (live record).head? = some first ∧
    (live record).getLast? = some last ∧ steps.start = first.index ∧
    steps.assumption = first.prop ∧ steps.derived = last.prop

/-- A scope with distinct indices that holds the live lines agrees with the record. -/
theorem keepsOrder_of_lines {record : List Entry} (hd : scope.indices.Nodup)
    (hl : scope.lines = live record) : scope.KeepsOrder record where
  items := hl
  distinct := hd
  latest := by
    rintro earlier entry later line rfl hi hr
    rw [indices,hl] at hd
    exact not_inserted_of_nodup hi hr hd
  first := congrArg List.head? hl
  last := congrArg List.getLast? hl
  insertion := by
    intro line
    have hp := performs hd (.insert line)
    generalize scope.perform (.insert line) = result at hp ⊢
    obtain ⟨next, answer⟩ := result
    cases hp with
    | inserted hu => exact (if_neg hu).symm
    | refused hi => exact (if_pos hi).symm
  removal := by
    intro index
    have hp := performs hd (.remove index)
    generalize scope.perform (.remove index) = result at hp ⊢
    obtain ⟨next, answer⟩ := result
    cases hp with
    | removed hm => exact .inl ⟨_, hm, rfl, rfl⟩
    | missing hu => exact .inr ⟨hu, rfl⟩
  displayed := fun _ => eq_sorted_iff hd
  folded := by
    intro hn
    obtain ⟨steps, first, last, hs, ho, hf, he, hx⟩ := exists_folded hd hn
    rw [first?,hl] at hf
    rw [last?,hl] at he
    exact ⟨steps, first, last, hs, ho, hf, he, hx⟩

/-- A scope is a map that keeps the order of insertion: after any calls, failed ones included, it
agrees with the record of the lines that it was made from and of the calls. -/
theorem keepsOrder_after {given : List Line} {start : Scope} (h : ofLines given = .ok start)
    (calls : List Call) :
    (start.after calls).KeepsOrder (insertions given ++ start.record calls) := by
  have he : empty.indices.Nodup := List.nodup_nil
  have hn : start.indices.Nodup := nodup_of_insertAll he h
  have hg : start.lines = given := lines_of_insertAll h
  obtain ⟨hd, hl⟩ := lines_after hn calls
  refine keepsOrder_of_lines hd ?_
  rw [hl,live_insertions,hg]

/-- An index that is refused keeps its line, and one that is removed and used again moves to the
end. -/
theorem keepsOrder_after_moved_index :
    let line := fun index : Int => (⟨index, .symbol "p", .premise⟩ : Line)
    let again : Line := ⟨5, .symbol "q", .premise⟩
    let calls : List Call := [.insert again, .remove 5, .remove 7, .insert (line 9), .insert again]
    ∃ start, ofLines [line 5, line 2] = .ok start ∧
      (start.after calls).KeepsOrder (insertions [line 5, line 2] ++ start.record calls) ∧
      (start.after calls).lines = [line 2, line 9, again] ∧
      start.record calls = [⟨.insert again, .refused (.indexInUse 5)⟩,
        ⟨.remove 5, .removed (line 5)⟩, ⟨.remove 7, .missing⟩, ⟨.insert (line 9), .inserted⟩,
        ⟨.insert again, .inserted⟩] := by
  intro line again calls
  have hs : ofLines [line 5, line 2] = .ok ⟨[line 5, line 2]⟩ := rfl
  exact ⟨_, hs, keepsOrder_after hs calls, by decide, by decide⟩

end Scope

end BoxedDeduction
