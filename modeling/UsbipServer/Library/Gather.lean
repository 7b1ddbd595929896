import UsbipServer.Library.Machine

namespace UsbipServer.Library

/-! Orders that are filled in pieces.  An order asks for a number of items, and
it is carried out when the pieces that follow it add up to that number. -/

namespace Gather

inductive Action (Order Item : Type) where
  | announced (order : Order)
  | piece (items : List Item)
  | cleared
  | other
  deriving DecidableEq, Repr

variable {Order Item Image : Type}

def Action.isCleared : Action Order Item → Bool
  | .cleared => true
  | _ => false

/-- The order of the last announcement that is not cleared, and the items that
came after it. -/
def announcement (history : List (Action Order Item)) :
    Option (Order × List Item) :=
  history.foldl (fun latest action =>
    match action with
    | .announced order => some (order, [])
    | .piece items => latest.map fun order => (order.1, order.2 ++ items)
    | .cleared => none
    | .other => latest) none

/-- The order that an action after `history` completes: the items since its
announcement were too few before and are exactly as many as it asks for now. -/
def completion (size : Order → Nat) (history : List (Action Order Item)) :
    Action Order Item → Option (Order × List Item)
  | .piece items =>
      match announcement history with
      | none => none
      | some (order, earlier) =>
          if earlier.length < size order ∧
              earlier.length + items.length = size order then
            some (order, earlier ++ items)
          else none
  | _ => none

def completionsFrom (size : Order → Nat) (before : List (Action Order Item)) :
    List (Action Order Item) → List (Order × List Item)
  | [] => []
  | action :: rest =>
      (completion size before action).toList ++
        completionsFrom size (before ++ [action]) rest

/-- The orders completed since everything was cleared, in the order of their
completion. -/
def completions (size : Order → Nat) (history : List (Action Order Item)) :
    List (Order × List Item) :=
  completionsFrom size [] (since Action.isCleared history)

/-- What carrying out the completed orders makes of a blank image. -/
def picture (size : Order → Nat) (apply : Order → List Item → Image → Image)
    (blank : Image) (history : List (Action Order Item)) : Image :=
  (completions size history).foldl
    (fun image done => apply done.1 done.2 image) blank

/-- The same as a machine that remembers the order being filled. -/
structure Canvas (Order Item Image : Type) where
  image : Image
  filling : Option (Order × List Item)

namespace Canvas

def step (size : Order → Nat) (apply : Order → List Item → Image → Image)
    (blank : Image) (canvas : Canvas Order Item Image) :
    Action Order Item → Canvas Order Item Image
  | .announced order =>
      { canvas with
        filling := if 0 < size order then some (order, []) else none }
  | .piece items =>
      match canvas.filling with
      | none => canvas
      | some (order, earlier) =>
          if earlier.length + items.length < size order then
            { canvas with filling := some (order, earlier ++ items) }
          else if earlier.length + items.length = size order then
            ⟨apply order (earlier ++ items) canvas.image, none⟩
          else { canvas with filling := none }
  | .cleared => ⟨blank, none⟩
  | .other => canvas

/-- A piece has more items than the order still needs. -/
def overshoots (size : Order → Nat) (canvas : Canvas Order Item Image)
    (items : List Item) : Bool :=
  match canvas.filling with
  | none => false
  | some (order, earlier) => size order < earlier.length + items.length

/-- All items up to the next action, however they are cut. -/
def fill (size : Order → Nat) (apply : Order → List Item → Image → Image)
    (canvas : Canvas Order Item Image) (items : List Item) :
    Canvas Order Item Image :=
  match canvas.filling with
  | none => canvas
  | some (order, earlier) =>
      if earlier.length + items.length < size order then
        { canvas with filling := some (order, earlier ++ items) }
      else
        ⟨apply order ((earlier ++ items).take (size order)) canvas.image, none⟩

end Canvas

section

variable {size : Order → Nat} {apply : Order → List Item → Image → Image}
  {blank : Image} {history : List (Action Order Item)}
  {canvas : Canvas Order Item Image}

@[simp] theorem announcement_concat (action : Action Order Item) :
    announcement (history ++ [action]) =
      match action with
      | .announced order => some (order, [])
      | .piece items =>
          (announcement history).map fun order => (order.1, order.2 ++ items)
      | .cleared => none
      | .other => announcement history := by
  cases action <;> simp [announcement]

theorem announcement_since :
    announcement (since Action.isCleared history) = announcement history := by
  induction history using List.reverseRecOn with
  | nil => rw [since_nil]
  | append_singleton history action induction =>
      rw [since_concat, announcement_concat]
      cases action with
      | cleared => rfl
      | announced | piece | other =>
          simp [Action.isCleared, induction]

theorem completion_since (action : Action Order Item) :
    completion size (since Action.isCleared history) action =
      completion size history action := by
  cases action <;> simp only [completion, announcement_since]

theorem completionsFrom_concat (before later : List (Action Order Item))
    (action : Action Order Item) :
    completionsFrom size before (later ++ [action]) =
      completionsFrom size before later ++
        (completion size (before ++ later) action).toList := by
  induction later generalizing before with
  | nil => simp [completionsFrom]
  | cons head rest induction => simp [completionsFrom, induction]

theorem completions_concat (action : Action Order Item) :
    completions size (history ++ [action]) =
      if action.isCleared then []
      else completions size history ++
        (completion size history action).toList := by
  unfold completions
  rw [since_concat]
  cases action.isCleared with
  | true => rfl
  | false =>
      simp only [Bool.false_eq_true, if_false, completionsFrom_concat,
        List.nil_append, completion_since]

@[simp] theorem picture_concat (action : Action Order Item) :
    picture size apply blank (history ++ [action]) =
      if action.isCleared then blank
      else match completion size history action with
        | none => picture size apply blank history
        | some done =>
            apply done.1 done.2 (picture size apply blank history) := by
  unfold picture
  rw [completions_concat]
  cases action.isCleared with
  | true => rfl
  | false => cases completion size history action <;> simp

theorem announced_of_announcement {order : Order} {items : List Item}
    (latest : announcement history = some (order, items)) :
    Action.announced order ∈ history := by
  induction history using List.reverseRecOn generalizing items with
  | nil => contradiction
  | append_singleton history action induction =>
      rw [announcement_concat] at latest
      rw [List.mem_append]
      cases action with
      | announced other =>
          obtain ⟨rfl, _⟩ := Prod.mk.inj (Option.some.inj latest)
          exact .inr (List.mem_singleton.mpr rfl)
      | piece later =>
          obtain ⟨earlier, found, same⟩ := Option.map_eq_some_iff.mp latest
          obtain ⟨rfl, _⟩ := Prod.mk.inj same
          exact .inl (induction found)
      | cleared => contradiction
      | other => exact .inl (induction latest)

/-- What is completed was announced, and has as many items as it asks for. -/
theorem announced_of_completion {action : Action Order Item}
    {done : Order × List Item}
    (completed : completion size history action = some done) :
    Action.announced done.1 ∈ history ∧ done.2.length = size done.1 := by
  cases action with
  | piece items =>
      simp only [completion] at completed
      split at completed
      · contradiction
      next order earlier latest =>
        split at completed
        next sum =>
          obtain rfl := Option.some.inj completed
          refine ⟨announced_of_announcement latest, ?_⟩
          rw [List.length_append]
          exact sum.2
        · contradiction
  | announced | cleared | other => contradiction

theorem announced_of_mem_completions {done : Order × List Item}
    (member : done ∈ completions size history) :
    Action.announced done.1 ∈ history ∧ done.2.length = size done.1 := by
  induction history using List.reverseRecOn with
  | nil => simp [completions, completionsFrom] at member
  | append_singleton history action induction =>
      rw [completions_concat] at member
      split at member
      · contradiction
      · rcases List.mem_append.mp member with earlier | now
        · obtain ⟨announced, length⟩ := induction earlier
          exact ⟨List.mem_append_left _ announced, length⟩
        · rw [Option.mem_toList] at now
          obtain ⟨announced, length⟩ := announced_of_completion now
          exact ⟨List.mem_append_left _ announced, length⟩

/-- The machine keeps the picture and the order that still lacks items. -/
structure Tracks (size : Order → Nat)
    (apply : Order → List Item → Image → Image) (blank : Image)
    (canvas : Canvas Order Item Image) (history : List (Action Order Item)) :
    Prop where
  image : canvas.image = picture size apply blank history
  filling : canvas.filling = (announcement history).filter
    fun order => order.2.length < size order.1

theorem Tracks.start : Tracks size apply blank ⟨blank, none⟩ [] := ⟨rfl, rfl⟩

theorem Tracks.lacks (tracks : Tracks size apply blank canvas history)
    {order : Order} {earlier : List Item}
    (filling : canvas.filling = some (order, earlier)) :
    announcement history = some (order, earlier) ∧
      earlier.length < size order := by
  rw [tracks.filling, Option.filter_eq_some_iff] at filling
  exact ⟨filling.1, of_decide_eq_true filling.2⟩

theorem Tracks.ignores (tracks : Tracks size apply blank canvas history)
    (idle : canvas.filling = none) (items : List Item) :
    completion size history (.piece items) = none ∧
      (announcement (history ++ [.piece items])).filter
        (fun order => order.2.length < size order.1) = none := by
  have full := tracks.filling.symm.trans idle
  rw [announcement_concat]
  cases latest : announcement history with
  | none => simp [completion, latest]
  | some order =>
      obtain ⟨order, earlier⟩ := order
      rw [latest] at full
      have enough : size order ≤ earlier.length := by
        simpa [Option.filter_some] using full
      have still : ¬ earlier.length + items.length < size order := by omega
      constructor
      · simp [completion, latest, Nat.not_lt.mpr enough]
      · simp [Option.filter_some, still]

theorem Tracks.piece (tracks : Tracks size apply blank canvas history)
    (items : List Item) :
    Tracks size apply blank (canvas.step size apply blank (.piece items))
      (history ++ [.piece items]) := by
  cases filling : canvas.filling with
  | none =>
      obtain ⟨uncompleted, full⟩ := tracks.ignores filling items
      constructor
      · rw [picture_concat, uncompleted]
        simpa [Canvas.step, filling, Action.isCleared] using tracks.image
      · rw [full]
        simp [Canvas.step, filling]
  | some order =>
      obtain ⟨order, earlier⟩ := order
      obtain ⟨latest, lacks⟩ := tracks.lacks filling
      simp only [Canvas.step, filling]
      by_cases short : earlier.length + items.length < size order
      · have other : earlier.length + items.length ≠ size order := by omega
        rw [if_pos short]
        constructor
        · simpa [completion, latest, other, Action.isCleared] using tracks.image
        · simp [latest, Option.filter_some, short]
      · rw [if_neg short]
        by_cases complete : earlier.length + items.length = size order
        · rw [if_pos complete]
          constructor
          · simp [completion, latest, lacks, complete, Action.isCleared, tracks.image]
          · simp [latest, Option.filter_some, short]
        · rw [if_neg complete]
          constructor
          · simpa [completion, latest, complete, Action.isCleared] using tracks.image
          · simp [latest, Option.filter_some, short]

theorem Tracks.step (tracks : Tracks size apply blank canvas history)
    (action : Action Order Item) :
    Tracks size apply blank (canvas.step size apply blank action)
      (history ++ [action]) := by
  cases action with
  | piece items => exact tracks.piece items
  | announced order =>
      constructor
      · rw [picture_concat]
        exact tracks.image
      · rw [announcement_concat]
        by_cases positive : 0 < size order <;>
          simp [Canvas.step, positive, Option.filter]
  | cleared =>
      constructor
      · rw [picture_concat]
        rfl
      · rw [announcement_concat]
        rfl
  | other =>
      constructor
      · rw [picture_concat]
        exact tracks.image
      · rw [announcement_concat]
        exact tracks.filling

/-! Cutting the items differently makes no difference as long as no piece has
too many. -/

theorem step_piece_eq_fill {items : List Item}
    (fits : canvas.overshoots size items = false) :
    canvas.step size apply blank (.piece items) =
      canvas.fill size apply items := by
  cases filling : canvas.filling with
  | none => simp [Canvas.step, Canvas.fill, filling]
  | some order =>
      obtain ⟨order, earlier⟩ := order
      simp only [Canvas.overshoots, filling, decide_eq_false_iff_not,
        not_lt] at fits
      simp only [Canvas.step, Canvas.fill, filling]
      by_cases short : earlier.length + items.length < size order
      · rw [if_pos short, if_pos short]
      · have exact : earlier.length + items.length = size order := by omega
        rw [if_neg short, if_neg short, if_pos exact, ← exact,
          ← List.length_append, List.take_length]

theorem fill_append {first second : List Item}
    (fits : canvas.overshoots size first = false) :
    (canvas.fill size apply first).fill size apply second =
      canvas.fill size apply (first ++ second) := by
  cases filling : canvas.filling with
  | none => simp [Canvas.fill, filling]
  | some order =>
      obtain ⟨order, earlier⟩ := order
      simp only [Canvas.overshoots, filling, decide_eq_false_iff_not,
        not_lt] at fits
      simp only [Canvas.fill, filling, List.length_append]
      by_cases short : earlier.length + first.length < size order
      · simp [short, Nat.add_assoc]
      · have complete : (earlier ++ first).length = size order := by
          rw [List.length_append]
          omega
        rw [if_neg short, if_neg (by omega), ← List.append_assoc, ← complete,
          List.take_length, List.take_left]

theorem fill_nil
    (short : ∀ order earlier, canvas.filling = some (order, earlier) →
      earlier.length < size order) :
    canvas.fill size apply [] = canvas := by
  obtain ⟨image, filling⟩ := canvas
  cases filling with
  | none => rfl
  | some order =>
      have lacks := short order.1 order.2 rfl
      simp [Canvas.fill, lacks]

end

end Gather

end UsbipServer.Library
