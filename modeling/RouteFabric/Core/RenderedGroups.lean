import RouteFabric.Core.RouteKey
import RouteFabric.Std.Numerals

/-!
# The rendered groups of an address

The renderer of an address first searches the longest run of zero groups and then places the
groups and the colons. Each pass is one fold over the groups; the invariants here say what a fold
has done after the groups it has seen.
-/

namespace RouteFabric

namespace Destination

/-! ## Runs of zero groups -/

/-- Consecutive groups that are zero. -/
structure ZeroRun (groups : List Nat) (start length : Nat) : Prop where
  inRange : start + length ≤ groups.length
  zeros : ∀ index, start ≤ index → index < start + length → groups[index]? = some 0

/-- A run of zero groups that no run exceeds, and the leftmost of that length. -/
structure LongestZeroRun (groups : List Nat) (start length : Nat) : Prop where
  run : ZeroRun groups start length
  longest : ∀ other count, ZeroRun groups other count → count ≤ length
  leftmost : ∀ other, ZeroRun groups other length → start ≤ other

/-- The runs of a longer list: those of the front, and those that end with a last zero. -/
theorem ZeroRun.append_iff {front : List Nat} {group start length : Nat} (nonempty : 0 < length) :
    ZeroRun (front ++ [group]) start length ↔ ZeroRun front start length ∨
      (group = 0 ∧ start + length = front.length + 1 ∧ ZeroRun front start (length - 1)) := by
  constructor
  · rintro ⟨inRange, zeros⟩
    rw [List.length_append, List.length_singleton] at inRange
    have inFront : ∀ index, start ≤ index → index < start + length → index < front.length →
        front[index]? = some 0 := by
      intro index after before inside
      have zero := zeros index after before
      rwa [List.getElem?_append_left inside] at zero
    by_cases last : start + length = front.length + 1
    · have zero := zeros front.length (by omega) (by omega)
      rw [List.getElem?_concat_length, Option.some.injEq] at zero
      exact .inr ⟨zero, last, by omega, fun index after before =>
        inFront index after (by omega) (by omega)⟩
    · exact .inl ⟨by omega, fun index after before => inFront index after before (by omega)⟩
  · rintro (⟨inRange, zeros⟩ | ⟨rfl, last, inRange, zeros⟩)
    · refine ⟨by rw [List.length_append]; omega, fun index after before => ?_⟩
      rw [List.getElem?_append_left (by omega)]
      exact zeros index after before
    · refine ⟨by rw [List.length_append, List.length_singleton]; omega, fun index after before => ?_⟩
      by_cases inside : index < front.length
      · rw [List.getElem?_append_left inside]
        exact zeros index after (by omega)
      · rw [show index = front.length by omega, List.getElem?_concat_length]

/-- One group of the search: the best run so far and the run that is open. -/
def zeroRunStep (scan : (Nat × Nat) × (Nat × Nat)) (item : Nat × Nat) : (Nat × Nat) × (Nat × Nat) :=
  if item.1 = 0 then
    let run : Nat × Nat := if scan.2.2 = 0 then (item.2, 1) else (scan.2.1, scan.2.2 + 1)
    (if scan.1.2 < run.2 then run else scan.1, run)
  else (scan.1, (scan.2.1, 0))

theorem longestZeroRun_eq (groups : List Nat) :
    longestZeroRun groups =
      let scan := groups.zipIdx.foldl zeroRunStep ((8, 0), (0, 0))
      if scan.1.2 < 2 then (8, 0) else scan.1 := rfl

/-- What the search knows of the groups it has seen: the open run is the longest that ends with
the last group, and the best run is the leftmost of the longest ones. -/
structure Searched (seen : List Nat) (scan : (Nat × Nat) × (Nat × Nat)) : Prop where
  openRun : 0 < scan.2.2 → scan.2.1 + scan.2.2 = seen.length ∧ ZeroRun seen scan.2.1 scan.2.2
  openLongest : ∀ start length, 0 < length → start + length = seen.length →
    ZeroRun seen start length → length ≤ scan.2.2
  best : 0 < scan.1.2 → ZeroRun seen scan.1.1 scan.1.2
  longest : ∀ start length, 0 < length → ZeroRun seen start length → length ≤ scan.1.2
  leftmost : 0 < scan.1.2 → ∀ start, ZeroRun seen start scan.1.2 → scan.1.1 ≤ start

/-- A group that is not zero closes the open run. -/
theorem Searched.close {seen : List Nat} {best opened : Nat × Nat} (searched : Searched seen (best, opened))
    {group : Nat} (nonzero : group ≠ 0) : Searched (seen ++ [group]) (best, (opened.1, 0)) := by
  have inSeen : ∀ {start length}, 0 < length → ZeroRun (seen ++ [group]) start length →
      ZeroRun seen start length := by
    intro start length nonempty run
    rcases (ZeroRun.append_iff nonempty).mp run with run | ⟨zero, -⟩
    · exact run
    · exact absurd zero nonzero
  refine ⟨fun positive => absurd positive (Nat.lt_irrefl 0), ?_, ?_, ?_, ?_⟩
  · intro start length nonempty last run
    have := (inSeen nonempty run).inRange
    rw [List.length_append, List.length_singleton] at last
    omega
  · exact fun nonempty => (ZeroRun.append_iff nonempty).mpr (.inl (searched.best nonempty))
  · exact fun start length nonempty run => searched.longest start length nonempty (inSeen nonempty run)
  · exact fun nonempty start run => searched.leftmost nonempty start (inSeen nonempty run)

/-- A zero group extends the open run, which becomes the best one when it is longer. -/
theorem Searched.extend {seen : List Nat} {best opened run : Nat × Nat}
    (searched : Searched seen (best, opened)) (length : run.2 = opened.2 + 1)
    (last : run.1 + run.2 = seen.length + 1) (zeros : ZeroRun seen run.1 opened.2) :
    Searched (seen ++ [0]) (if best.2 < run.2 then run else best, run) := by
  have extended : ZeroRun (seen ++ [0]) run.1 run.2 :=
    (ZeroRun.append_iff (by omega)).mpr (.inr ⟨rfl, last, by rwa [length, Nat.add_sub_cancel]⟩)
  -- a run that ends with the new group is no longer than the open one
  have ending : ∀ start count, start + count = seen.length + 1 → ZeroRun seen start (count - 1) →
      count ≤ run.2 := by
    intro start count final inSeen
    by_cases single : count ≤ 1
    · omega
    · have := searched.openLongest start (count - 1) (by omega) (by omega) inSeen
      simp only at this
      omega
  have cases : ∀ {start count}, 0 < count → ZeroRun (seen ++ [0]) start count →
      (ZeroRun seen start count ∧ count ≤ best.2) ∨ (start + count = seen.length + 1 ∧ count ≤ run.2) := by
    intro start count nonempty inBoth
    rcases (ZeroRun.append_iff nonempty).mp inBoth with inSeen | ⟨-, final, inSeen⟩
    · exact .inl ⟨inSeen, searched.longest start count nonempty inSeen⟩
    · exact .inr ⟨final, ending start count final inSeen⟩
  have openRun : 0 < run.2 → run.1 + run.2 = (seen ++ [0]).length ∧
      ZeroRun (seen ++ [0]) run.1 run.2 := by
    intro _
    rw [List.length_append, List.length_singleton]
    exact ⟨last, extended⟩
  have openLongest : ∀ start count, 0 < count → start + count = (seen ++ [0]).length →
      ZeroRun (seen ++ [0]) start count → count ≤ run.2 := by
    intro start count nonempty final inBoth
    rw [List.length_append, List.length_singleton] at final
    rcases cases nonempty inBoth with ⟨inSeen, -⟩ | ⟨-, short⟩
    · have := inSeen.inRange
      omega
    · exact short
  by_cases longer : best.2 < run.2
  · rw [if_pos longer]
    refine ⟨openRun, openLongest, fun _ => extended, ?_, ?_⟩
    · intro start count nonempty inBoth
      rcases cases nonempty inBoth with ⟨-, short⟩ | ⟨-, short⟩
      · exact short.trans longer.le
      · exact short
    · intro nonempty start inBoth
      change run.1 ≤ start
      rcases cases nonempty inBoth with ⟨-, short⟩ | ⟨final, -⟩
      · simp only at short
        omega
      · simp only at final
        omega
  · rw [if_neg longer]
    refine ⟨openRun, openLongest, ?_, ?_, ?_⟩
    · exact fun nonempty => (ZeroRun.append_iff nonempty).mpr (.inl (searched.best nonempty))
    · intro start count nonempty inBoth
      rcases cases nonempty inBoth with ⟨-, short⟩ | ⟨-, short⟩
      · exact short
      · exact short.trans (Nat.le_of_not_lt longer)
    · intro nonempty start inBoth
      rcases cases nonempty inBoth with ⟨inSeen, -⟩ | ⟨final, short⟩
      · exact searched.leftmost nonempty start inSeen
      · have := (searched.best nonempty).inRange
        simp only at final short this ⊢
        omega

theorem searched_step {seen : List Nat} {scan : (Nat × Nat) × (Nat × Nat)}
    (searched : Searched seen scan) (group : Nat) :
    Searched (seen ++ [group]) (zeroRunStep scan (group, seen.length)) := by
  obtain ⟨best, opened⟩ := scan
  rw [zeroRunStep]
  simp only
  split
  · rename_i zero
    subst zero
    by_cases closed : opened.2 = 0
    · rw [if_pos closed]
      refine searched.extend (by simp [closed]) rfl ?_
      rw [closed]
      exact ⟨Nat.le_refl _, fun _ after before => absurd after (by simpa using before)⟩
    · obtain ⟨last, run⟩ := searched.openRun (Nat.pos_of_ne_zero closed)
      rw [if_neg closed]
      exact searched.extend rfl (by simp only at last ⊢; omega) run
  · rename_i nonzero
    exact searched.close nonzero

theorem searched (groups : List Nat) :
    Searched groups (groups.zipIdx.foldl zeroRunStep ((8, 0), (0, 0))) := by
  induction groups using List.reverseRecOn with
  | nil =>
      have none : ∀ start length, 0 < length → ¬ ZeroRun [] start length := by
        intro start length nonempty run
        have := run.inRange
        simp only [List.length_nil] at this
        omega
      exact ⟨fun positive => absurd positive (Nat.lt_irrefl 0), fun _ _ positive _ run =>
        absurd run (none _ _ positive), fun positive => absurd positive (Nat.lt_irrefl 0),
        fun _ _ positive run => absurd run (none _ _ positive),
        fun positive => absurd positive (Nat.lt_irrefl 0)⟩
  | append_singleton front group ih =>
      rw [List.zipIdx_append, List.foldl_append, Nat.zero_add]
      exact searched_step ih group

/-- The search finds the leftmost longest run, or reports that no run has two groups. -/
theorem longestZeroRun_spec (groups : List Nat) :
    (longestZeroRun groups = (8, 0) ∧ ∀ start length, ZeroRun groups start length → length < 2) ∨
    ∃ start length, longestZeroRun groups = (start, length) ∧ 2 ≤ length ∧
      LongestZeroRun groups start length := by
  have found := searched groups
  rw [longestZeroRun_eq]
  generalize groups.zipIdx.foldl zeroRunStep ((8, 0), (0, 0)) = scan at found
  have longest : ∀ start length, ZeroRun groups start length → length ≤ scan.1.2 := by
    intro start length run
    rcases Nat.eq_zero_or_pos length with rfl | nonempty
    · exact Nat.zero_le _
    · exact found.longest start length nonempty run
  by_cases short : scan.1.2 < 2
  · refine .inl ⟨if_pos short, fun start length run => (longest start length run).trans_lt short⟩
  · have positive : 0 < scan.1.2 := by omega
    exact .inr ⟨scan.1.1, scan.1.2, if_neg short, by omega, found.best positive, longest,
      found.leftmost positive⟩

/-! ## Groups and colons -/

/-- Groups in hexadecimal between single colons. -/
def joinGroups (groups : List Nat) : List Char := [':'].intercalate (groups.map (Nat.toDigits 16))

/-- One group of the renderer. -/
def renderStep (best : Nat × Nat) (out : List Char) (item : Nat × Nat) : List Char :=
  if best.2 ≠ 0 ∧ best.1 ≤ item.2 ∧ item.2 < best.1 + best.2 then
    if item.2 = best.1 then out ++ [':', ':'] else out
  else
    (if out ≠ [] ∧ out.getLast? ≠ some ':' then out ++ [':'] else out) ++ Nat.toDigits 16 item.1

theorem renderGroups_eq_foldl (best : Nat × Nat) (groups : List Nat) :
    renderGroups best groups = groups.zipIdx.foldl (renderStep best) [] := rfl

/-- The digits of a group: some, and no colon. -/
theorem toDigits_chars (group : Nat) :
    Nat.toDigits 16 group ≠ [] ∧ ':' ∉ Nat.toDigits 16 group := by
  rw [Numerals.toDigits_eq (by decide)]
  refine ⟨by simp [Numerals.write_ne_nil], fun member => ?_⟩
  obtain ⟨digit, written, colon⟩ := List.mem_map.mp member
  have small := Numerals.write_lt (by decide) group digit written
  have none : ∀ digit < 16, Nat.digitChar digit ≠ ':' := by decide
  exact none digit small colon

theorem getLast?_append_digits (out : List Char) (group : Nat) :
    out ++ Nat.toDigits 16 group ≠ [] ∧ (out ++ Nat.toDigits 16 group).getLast? ≠ some ':' := by
  obtain ⟨nonempty, noColon⟩ := toDigits_chars group
  refine ⟨by simp [nonempty], fun colon => noColon ?_⟩
  rw [List.getLast?_append_of_ne_nil _ nonempty] at colon
  exact List.mem_of_getLast? colon

theorem joinGroups_cons (group : Nat) (rest : List Nat) :
    joinGroups (group :: rest) =
      Nat.toDigits 16 group ++ (if rest ≠ [] then [':'] else []) ++ joinGroups rest := by
  cases rest with
  | nil => simp [joinGroups]
  | cons next others => simp [joinGroups]

/-- Outside of the compressed run, groups follow each other with single colons. -/
theorem foldl_renderStep_outside {best : Nat × Nat} {groups : List Nat} {start : Nat}
    (outside : ∀ index, start ≤ index → index < start + groups.length →
      ¬ (best.2 ≠ 0 ∧ best.1 ≤ index ∧ index < best.1 + best.2)) (out : List Char) :
    (groups.zipIdx start).foldl (renderStep best) out =
      out ++ (if groups ≠ [] ∧ out ≠ [] ∧ out.getLast? ≠ some ':' then [':'] else []) ++
        joinGroups groups := by
  induction groups generalizing start out with
  | nil => simp [joinGroups]
  | cons group rest ih =>
      rw [List.length_cons] at outside
      have step : renderStep best out (group, start) =
          (if out ≠ [] ∧ out.getLast? ≠ some ':' then out ++ [':'] else out) ++
            Nat.toDigits 16 group := if_neg (outside start (Nat.le_refl _) (by omega))
      obtain ⟨nonempty, noColon⟩ := getLast?_append_digits
        (if out ≠ [] ∧ out.getLast? ≠ some ':' then out ++ [':'] else out) group
      rw [List.zipIdx_cons, List.foldl_cons, step,
        ih (fun index after before => outside index (by omega) (by omega)), joinGroups_cons]
      simp only [nonempty, noColon, ne_eq, not_false_eq_true, and_true, reduceCtorEq, true_and]
      split <;> simp

/-- The compressed run becomes a double colon where it starts. -/
theorem foldl_renderStep_inside {best : Nat × Nat} {groups : List Nat}
    (length : groups.length = best.2) (nonempty : groups ≠ []) (out : List Char) :
    (groups.zipIdx best.1).foldl (renderStep best) out = out ++ [':', ':'] := by
  have later : ∀ (rest : List Nat) (start : Nat) (out : List Char), best.1 < start →
      start + rest.length ≤ best.1 + best.2 → (rest.zipIdx start).foldl (renderStep best) out = out := by
    intro rest
    induction rest with
    | nil => exact fun _ _ _ _ => rfl
    | cons group rest ih =>
        intro start out after before
        rw [List.length_cons] at before
        have step : renderStep best out (group, start) = out := by
          rw [renderStep, if_pos ⟨by omega, by simp only; omega, by simp only; omega⟩,
            if_neg (by simp only; omega)]
        rw [List.zipIdx_cons, List.foldl_cons, step, ih (start + 1) out (by omega) (by omega)]
  cases groups with
  | nil => exact absurd rfl nonempty
  | cons group rest =>
      rw [List.length_cons] at length
      have step : renderStep best out (group, best.1) = out ++ [':', ':'] := by
        rw [renderStep, if_pos ⟨by omega, Nat.le_refl _, by simp only; omega⟩, if_pos rfl]
      rw [List.zipIdx_cons, List.foldl_cons, step, later rest _ _ (by omega) (by omega)]

theorem renderGroups_plain (groups : List Nat) : renderGroups (8, 0) groups = joinGroups groups := by
  rw [renderGroups_eq_foldl, foldl_renderStep_outside (fun _ _ _ run => run.1 rfl)]
  simp

/-- The renderer writes the groups before the run, a double colon, and the groups after it. -/
theorem renderGroups_compressed {groups : List Nat} {start length : Nat} (nonempty : 0 < length)
    (inRange : start + length ≤ groups.length) :
    renderGroups (start, length) groups =
      joinGroups (groups.take start) ++ [':', ':'] ++ joinGroups (groups.drop (start + length)) := by
  have runLength : ((groups.drop start).take length).length = length := by
    rw [List.length_take, List.length_drop]
    omega
  have parts : groups = groups.take start ++ ((groups.drop start).take length ++
      groups.drop (start + length)) := by
    rw [← List.drop_drop, List.take_append_drop, List.take_append_drop]
  have frontLength : (groups.take start).length = start := by
    rw [List.length_take]
    omega
  conv_lhs => rw [parts]
  rw [renderGroups_eq_foldl, List.zipIdx_append, List.zipIdx_append, List.foldl_append,
    List.foldl_append, frontLength, runLength, Nat.zero_add,
    foldl_renderStep_outside (fun index after _ => by simp only; omega),
    @foldl_renderStep_inside (start, length) _ runLength
      (fun empty => by rw [empty, List.length_nil] at runLength; omega),
    foldl_renderStep_outside (fun index _ before => by rw [frontLength] at before; simp only; omega)]
  simp

end Destination

end RouteFabric
