import Mathlib.Data.List.Basic

namespace UsbipServer.Library

/-! Timetables: entries are appended with the time they are due, one after the
other, leave when they are due, and may be withdrawn at any time. -/

/-- `finish` is where the next entry starts at the earliest, `done` are the
numbers of the entries that left when they were due. -/
structure Timetable (Entry : Type) where
  queue : List Entry
  finish : Nat
  done : List Nat

namespace Timetable

section

variable {Entry : Type} (due cost number : Entry → Nat)

/-- What can happen to a timetable.  Entries leave at the clock readings in
`reads`, the last of several entries is only withdrawn if `cut`, and a time that
is told is only another one than the time that was meant if `wraps`. -/
inductive Step (reads : Nat → Prop) (cut wraps : Prop)
    (table : Timetable Entry) : Timetable Entry → Prop
  | stays : Step reads cut wraps table table
  | restarts : Step reads cut wraps table ⟨[], 0, table.done⟩
  | appends (now : Nat) (entry : Entry)
      (timed : ¬ wraps → due entry = max table.finish now + cost entry)
      (newest : ∀ earlier ∈ table.done ++ table.queue.map number,
        earlier < number entry) :
      Step reads cut wraps table
        ⟨table.queue ++ [entry], due entry, table.done⟩
  | completes (now : Nat) (front back : List Entry) (entry : Entry)
      (split : table.queue = front ++ entry :: back) (reading : reads now)
      (reached : due entry ≤ now) (early : ∀ other ∈ front, now < due other) :
      Step reads cut wraps table
        ⟨front ++ back, table.finish, table.done ++ [number entry]⟩
  | withdraws (front back : List Entry) (entry : Entry)
      (split : table.queue = front ++ entry :: back)
      (last : back = [] → cut) :
      Step reads cut wraps table ⟨front ++ back, table.finish, table.done⟩

/-- Every entry takes its cost, after all entries before it. -/
def Spaced (queue : List Entry) : Prop :=
  queue.Pairwise fun earlier later => due earlier + cost later ≤ due later

structure Kept (table : Timetable Entry) : Prop where
  spaced : Spaced due cost table.queue
  within : ∀ entry ∈ table.queue, due entry ≤ table.finish
  ordered : (table.done ++ table.queue.map number).Pairwise (· < ·)

def EndsWith (queue : List Entry) (finish : Nat) : Prop :=
  ∃ front last, queue = front ++ [last] ∧ due last = finish

/-- The finish has been read on the clock, or it is that of the last entry. -/
def Punctual (readings : List Nat) (table : Timetable Entry) : Prop :=
  table.finish = 0 ∨ (∃ reading ∈ readings, table.finish ≤ reading) ∨
    EndsWith due table.queue table.finish

end

section

variable {Entry : Type} {due cost number : Entry → Nat}
  {reads : Nat → Prop} {cut wraps : Prop} {table next : Timetable Entry}

private theorem sublist_remove {queue front back : List Entry} {entry : Entry}
    (split : queue = front ++ entry :: back) :
    (front ++ back).Sublist queue := by
  rw [split]
  exact (List.sublist_cons_self entry back).append_left front

theorem Spaced.remove {queue front back : List Entry} {entry : Entry}
    (spaced : Spaced due cost queue) (split : queue = front ++ entry :: back) :
    Spaced due cost (front ++ back) :=
  List.Pairwise.sublist (sublist_remove split) spaced

theorem Spaced.append {queue : List Entry} {finish : Nat} {entry : Entry}
    (spaced : Spaced due cost queue)
    (within : ∀ earlier ∈ queue, due earlier ≤ finish)
    (timed : finish + cost entry ≤ due entry) :
    Spaced due cost (queue ++ [entry]) := by
  apply List.pairwise_append.mpr
  refine ⟨spaced, List.pairwise_singleton _ _, ?_⟩
  intro earlier member later single
  rw [List.mem_singleton.mp single]
  have bound := within earlier member
  omega

/-- An entry that leaves has none before it: those would be due as well. -/
theorem Kept.first {now : Nat} {front back : List Entry} {entry : Entry}
    (kept : Kept due cost number table)
    (split : table.queue = front ++ entry :: back) (reached : due entry ≤ now)
    (early : ∀ other ∈ front, now < due other) : front = [] := by
  apply List.eq_nil_iff_forall_not_mem.mpr
  intro other member
  have spaced := kept.spaced
  rw [Spaced, split] at spaced
  have before := (List.pairwise_append.mp spaced).2.2 other member entry
    List.mem_cons_self
  have later := early other member
  omega

theorem Kept.step (kept : Kept due cost number table)
    (stepped : Step due cost number reads cut wraps table next)
    (inRange : ¬ wraps) : Kept due cost number next := by
  obtain ⟨spaced, within, ordered⟩ := kept
  cases stepped with
  | stays => exact ⟨spaced, within, ordered⟩
  | restarts =>
      refine ⟨List.Pairwise.nil, by simp, ?_⟩
      simpa using (List.pairwise_append.mp ordered).1
  | appends now entry timed newest =>
      have told := timed inRange
      refine ⟨spaced.append within (by omega), ?_, ?_⟩
      · intro earlier member
        rcases List.mem_append.mp member with member | single
        · have bound := within earlier member
          change due earlier ≤ due entry
          omega
        · exact Nat.le_of_eq (congrArg due (List.mem_singleton.mp single))
      · change (table.done ++ (table.queue ++ [entry]).map number).Pairwise _
        rw [List.map_append, ← List.append_assoc]
        apply List.pairwise_append.mpr
        refine ⟨ordered, List.pairwise_singleton _ _, ?_⟩
        intro earlier member later single
        rw [List.mem_singleton.mp single]
        exact newest earlier member
  | completes now front back entry split reading reached early =>
      have first := Kept.first ⟨spaced, within, ordered⟩ split reached early
      subst first
      refine ⟨spaced.remove split, ?_, ?_⟩
      · intro other member
        exact within other ((sublist_remove split).subset member)
      · rw [split] at ordered
        simpa using ordered
  | withdraws front back entry split last =>
      refine ⟨spaced.remove split, ?_, ?_⟩
      · intro other member
        exact within other ((sublist_remove split).subset member)
      · refine ordered.sublist (List.Sublist.append_left ?_ _)
        exact (sublist_remove split).map number

theorem EndsWith.removed {queue front back : List Entry} {finish : Nat}
    {entry : Entry} (ends : EndsWith due queue finish)
    (split : queue = front ++ entry :: back) :
    back = [] ∧ due entry = finish ∨ EndsWith due (front ++ back) finish := by
  obtain ⟨others, last, whole, same⟩ := ends
  rcases List.eq_nil_or_concat' back with rfl | ⟨early, final, rfl⟩
  · left
    have tail := List.append_inj_right' (whole.symm.trans split) rfl
    obtain rfl := (List.cons.inj tail).1
    exact ⟨rfl, same⟩
  · right
    have tail : others ++ [last] = (front ++ entry :: early) ++ [final] := by
      rw [← whole, split, List.append_assoc]
      rfl
    obtain rfl := (List.cons.inj (List.append_inj_right' tail rfl)).1
    exact ⟨front ++ early, last, (List.append_assoc _ _ _).symm, same⟩

theorem Punctual.later {readings : List Nat}
    (punctual : Punctual due readings table) (more : List Nat) :
    Punctual due (readings ++ more) table := by
  rcases punctual with zero | ⟨reading, read, past⟩ | last
  · exact .inl zero
  · exact .inr (.inl ⟨reading, List.mem_append_left more read, past⟩)
  · exact .inr (.inr last)

theorem Punctual.step {readings : List Nat}
    (punctual : Punctual due readings table)
    (logged : ∀ now, reads now → now ∈ readings)
    (stepped : Step due cost number reads cut wraps table next)
    (uncut : ¬ cut) : Punctual due readings next := by
  cases stepped with
  | stays => exact punctual
  | restarts => exact .inl rfl
  | appends now entry timed newest =>
      exact .inr (.inr ⟨table.queue, entry, rfl, rfl⟩)
  | completes now front back entry split reading reached early =>
      rcases punctual with zero | past | ends
      · exact .inl zero
      · exact .inr (.inl past)
      · rcases ends.removed split with ⟨_, same⟩ | left
        · exact .inr (.inl ⟨now, logged now reading, same ▸ reached⟩)
        · exact .inr (.inr left)
  | withdraws front back entry split last =>
      rcases punctual with zero | past | ends
      · exact .inl zero
      · exact .inr (.inl past)
      · rcases ends.removed split with ⟨none, _⟩ | left
        · exact absurd (last none) uncut
        · exact .inr (.inr left)

/-- After the last entry left, the next one starts at once. -/
theorem Punctual.fresh {readings : List Nat} {now : Nat}
    (punctual : Punctual due readings table) (empty : table.queue = [])
    (later : ∀ reading ∈ readings, reading ≤ now) :
    max table.finish now = now := by
  rcases punctual with zero | ⟨reading, read, past⟩ | ⟨front, last, ends, _⟩
  · omega
  · have bound := later reading read
    omega
  · rw [empty] at ends
    simp at ends

end

end Timetable

end UsbipServer.Library
