import PropertyTemplates.Pattern.Basic

namespace PropertyTemplates.Pattern

-- What is still to be done to complete a match.
inductive Task where
  | run (e : Expr)
  -- The end of a group.
  | close (index : Nat)
  -- The end of a turn of a repetition without a bound. The body may run again only if characters
  -- have been read since the turn began.
  | again (body : Expr) (greedy advanced : Bool)
deriving DecidableEq, Repr

-- The start or the end of a group.
inductive Edge where
  | start (index : Nat)
  | finish (index : Nat)
deriving DecidableEq, Repr

-- The places of edges, as numbers of characters since the start of the match. The latest come
-- first.
abbrev Marks := List (Edge × Nat)

-- A place in a text: the characters around it and its distance from the start of the match.
structure Place where
  before : Option Char
  after : Option Char
  offset : Nat

namespace Expr

-- Bounds the steps that a search takes at one place.
def size : Expr → Nat
  | .empty | .char _ | .assertion _ => 1
  | .group _ _ body => body.size + 2
  | .seq a b => a.size + b.size + 1
  | .alt a b => a.size + b.size + 1
  | .repeat body min none _ => (min + 1) * (body.size + 2) + 1
  | .repeat body min (some max) _ => Nat.max min max * (body.size + 2) + 1

end Expr

namespace Task

def size : Task → Nat
  | .run e => e.size
  | .close _ => 1
  | .again body _ true => body.size + 2
  | .again _ _ false => 1

def totalSize : List Task → Nat
  | [] => 0
  | t :: tasks => t.size + totalSize tasks

-- One more turn or none, in the order in which they are preferred.
def prefer (greedy : Bool) (turn : List Task) : List (List Task) :=
  if greedy then [turn, []] else [[], turn]

-- The tasks that a repetition turns into.
def turns (body : Expr) (greedy : Bool) : Nat → Option Nat → List (List Task)
  | 0, some 0 => [[]]
  | 0, some (max + 1) => prefer greedy [.run body, .run (.repeat body 0 (some max) greedy)]
  | min + 1, some max => [[.run body, .run (.repeat body min (some (max - 1)) greedy)]]
  | 0, none => prefer greedy [.run body, .again body greedy false]
  | 1, none => [[.run body, .again body greedy false]]
  | min + 2, none => [[.run body, .run (.repeat body (min + 1) none greedy)]]

-- The ways to go on with a task that needs no character, the preferred one first. Each replaces the
-- task by others.
def ways (place : Place) : Task → List (List Task)
  | .run .empty => [[]]
  | .run (.char _) => []
  | .run (.assertion condition) => if condition.holds place.before place.after then [[]] else []
  | .run (.group index _ body) => [[.run body, .close index]]
  | .run (.seq a b) => [[.run a, .run b]]
  | .run (.alt a b) => [[.run a], [.run b]]
  | .run (.repeat body min max greedy) => turns body greedy min max
  | .close _ => [[]]
  | .again body greedy true => prefer greedy [.run body, .again body greedy false]
  | .again _ _ false => [[]]

-- The edge that a task passes.
def edge? : Task → Option Edge
  | .run (.group index _ _) => some (.start index)
  | .close index => some (.finish index)
  | _ => none

-- After a character has been read, every turn has read something.
def advance : Task → Task
  | .again body greedy _ => .again body greedy true
  | t => t

theorem totalSize_cons (t : Task) (tasks : List Task) :
    totalSize (t :: tasks) = t.size + totalSize tasks := rfl

theorem totalSize_append (first second : List Task) :
    totalSize (first ++ second) = totalSize first + totalSize second := by
  induction first with
  | nil => exact (Nat.zero_add _).symm
  | cons t first ih => rw [List.cons_append, totalSize_cons, totalSize_cons, ih, Nat.add_assoc]

theorem totalSize_prefer {greedy : Bool} {turn way : List Task} {bound : Nat}
    (hturn : totalSize turn < bound) (hway : way ∈ prefer greedy turn) :
    totalSize way < bound := by
  have hpos : totalSize [] < bound := Nat.lt_of_le_of_lt (Nat.zero_le _) hturn
  unfold prefer at hway
  split at hway <;> simp only [List.mem_cons, List.not_mem_nil, or_false] at hway <;>
    rcases hway with rfl | rfl <;> assumption

theorem totalSize_turns {body : Expr} {greedy : Bool} {min : Nat} {max : Option Nat}
    {way : List Task} (h : way ∈ turns body greedy min max) :
    totalSize way < (Expr.repeat body min max greedy).size := by
  unfold turns at h
  split at h
  · simp only [List.mem_singleton] at h
    subst h
    exact Nat.succ_pos _
  · refine totalSize_prefer ?_ h
    simp only [totalSize, size, Expr.size,
      Nat.max_def, Nat.zero_le, if_true, Nat.succ_eq_add_one, Nat.add_mul]
    omega
  · rename_i n m
    simp only [List.mem_singleton] at h
    subst h
    have hmax : Nat.max (n + 1) m = Nat.max n (m - 1) + 1 := by
      simp only [Nat.max_def]; split <;> split <;> omega
    simp only [totalSize, size, Expr.size,
      hmax, Nat.add_mul]
    omega
  · refine totalSize_prefer ?_ h
    simp only [totalSize, size, Expr.size]
    omega
  · simp only [List.mem_singleton] at h
    subst h
    simp only [totalSize, size, Expr.size,
      Nat.add_mul]
    omega
  · simp only [List.mem_singleton] at h
    subst h
    simp only [totalSize, size, Expr.size,
      Nat.succ_eq_add_one, Nat.add_mul]
    omega

-- Going on makes what is left to do smaller.
theorem totalSize_ways {place : Place} {t : Task} {way : List Task} (h : way ∈ t.ways place) :
    totalSize way < t.size := by
  cases t with
  | run e =>
    cases e with
    | assertion condition =>
      simp only [ways] at h
      split at h
      · simp only [List.mem_singleton] at h
        subst h
        exact Nat.succ_pos _
      · simp at h
    | «repeat» body min max greedy => exact totalSize_turns h
    | alt a b =>
      simp only [ways, List.mem_cons, List.not_mem_nil, or_false] at h
      rcases h with rfl | rfl <;>
        simp only [totalSize, size,
          Expr.size] <;> omega
    | char set => simp [ways] at h
    | _ =>
      simp only [ways, List.mem_singleton] at h
      subst h
      simp only [totalSize, size,
        Expr.size]
      omega
  | close index =>
    simp only [ways, List.mem_singleton] at h
    subst h
    exact Nat.succ_pos _
  | again body greedy advanced =>
    cases advanced with
    | true =>
      refine totalSize_prefer ?_ h
      simp only [totalSize, size]
      omega
    | false =>
      simp only [ways, List.mem_singleton] at h
      subst h
      exact Nat.succ_pos _

end Task

-- A way to go on: the tasks in their order and the edges passed so far.
structure Thread where
  tasks : List Task
  marks : Marks := []

-- The state of a search at one place. Of two threads with the same tasks only the preferred one
-- matters, so the tasks met before are kept.
structure Frontier where
  met : List (List Task) := []
  -- The threads that wait for a character, the preferred one last.
  waiting : List (CharSet × Thread) := []
  -- The marks of the preferred thread that has no task left. Threads behind it do not matter.
  complete : Option Marks := none

-- Follows a thread up to the tasks that need a character.
def Frontier.follow (place : Place) (f : Frontier) (marks : Marks) : List Task → Frontier
  | [] => { f with complete := f.complete.or (some marks) }
  | task :: tasks =>
    if f.complete.isSome || f.met.contains (task :: tasks) then f
    else
      let f := { f with met := (task :: tasks) :: f.met }
      match task with
      | .run (.char set) => { f with waiting := (set, ⟨tasks, marks⟩) :: f.waiting }
      | task =>
        let marks := match task.edge? with
          | some edge => (edge, place.offset) :: marks
          | none => marks
        (task.ways place).attach.foldl (fun f way => follow place f marks (way.1 ++ tasks)) f
termination_by tasks => Task.totalSize tasks
decreasing_by
  rw [Task.totalSize_append, Task.totalSize_cons]
  have := Task.totalSize_ways way.2
  omega

-- Follows threads, the preferred one first.
def Frontier.ofThreads (place : Place) (threads : List Thread) : Frontier :=
  threads.foldl (fun f thread => f.follow place thread.marks thread.tasks) {}

-- The threads that can read a character, after they have read it, the preferred one first.
def Frontier.read (f : Frontier) (c : Char) : List Thread :=
  f.waiting.reverse.filterMap fun (set, thread) =>
    if set.contains c then some { thread with tasks := thread.tasks.map Task.advance } else none

-- A match: the number of its characters, and the edges passed.
structure Match where
  length : Nat
  marks : Marks

-- Runs threads over a text, the preferred one first, and yields the match of the preferred thread.
-- A match found later is preferred, since threads behind an earlier one have been dropped.
def search (found : Option Match) (before : Option Char) (offset : Nat) (threads : List Thread)
    (cs : List Char) : Option Match :=
  let frontier := Frontier.ofThreads ⟨before, cs.head?, offset⟩ threads
  let found := (frontier.complete.map (Match.mk offset)).or found
  match cs with
  | [] => found
  | c :: cs =>
    match frontier.read c with
    | [] => found
    | threads => search found (some c) (offset + 1) threads cs

-- The match that starts at the front of a text, given the character in front of the text.
def matchAt (p : Pattern) (before : Option Char) (cs : List Char) : Option Match :=
  search none before 0 [⟨[.run p.expr], []⟩] cs

-- What a group has matched, given the text from the start of the match. Group 0 is the whole match;
-- a group that took no part has matched nothing.
def Match.group (m : Match) (text : List Char) : Nat → List Char
  | 0 => text.take m.length
  | index =>
    match m.marks.lookup (.start index), m.marks.lookup (.finish index) with
    | some first, some last => (text.drop first).take (last - first)
    | _, _ => []

end PropertyTemplates.Pattern
