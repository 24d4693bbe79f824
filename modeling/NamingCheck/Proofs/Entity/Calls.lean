import NamingCheck.Proofs.Entity.Preorder

/-!
# The stack walk, call by call

The caller of the walk asks for one node at a time and may stop asking whenever it likes. After any
number of calls the nodes it was given are the beginning of the sequence of the judged nodes, and
the stack stands for the rest of it.

A single call may take many turns, and in each of them the stack may grow. What shrinks is the
number of nodes on the stack and below.
-/

universe u

namespace NamingCheck.EntityTree

open OrderedTree (children preorder)

variable {Node : Type u} [EntityTree Node]

/-- The nodes of a tree that the policy judges, by a recursion that keeps no stack. -/
def eligible (root : Node) : List Node :=
  (preorder root).filter fun node => !isShielded node && isCandidate node

namespace Pending

/-- The judged nodes for which a stack stands, tree by tree from the top of the stack down. -/
def toCome (pending : Pending Node) : List Node :=
  pending.stack.flatMap eligible

theorem toCome_eq (pending : Pending Node) : pending.toCome = pending.sequence.filter isJudged := by
  rw [toCome, sequence, List.filter_flatMap]
  rfl

/-! ### The turns of one call -/

/-- The loop of a call, given up after a number of turns. A turn takes the top node off the stack
and puts its children there instead; the loop ends when this node is to be judged, or when there was
none to take. -/
def loop? : Nat → Pending Node → Option (Option Node × Pending Node)
  | 0, _ => none
  | _ + 1, ⟨[]⟩ => some (none, ⟨[]⟩)
  | turns + 1, ⟨node :: rest⟩ =>
      if isJudged node then some (some node, ⟨children node ++ rest⟩)
      else loop? turns ⟨children node ++ rest⟩

/-- What a call answers and what it leaves behind. One that finds nothing has emptied the stack. -/
def call : StateM (Pending Node) (Option Node) := fun pending =>
  match pending.next? with
  | none => (none, ⟨[]⟩)
  | some (node, rest) => (some node, rest)

theorem length_sequence_cons (node : Node) (rest : List Node) :
    (sequence ⟨node :: rest⟩).length = (sequence ⟨children node ++ rest⟩).length + 1 := by
  rw [sequence_cons, List.length_cons]

/-- One turn for each node on the stack or below it is enough, and one more to see that none is left
over. -/
theorem loop?_eq_call {pending : Pending Node} {turns : Nat}
    (hturns : pending.sequence.length < turns) : loop? turns pending = some (call.run pending) := by
  induction turns generalizing pending with
  | zero => omega
  | succ turns ih =>
      obtain ⟨stack⟩ := pending
      cases stack with
      | nil =>
          have hnext : next? (⟨[]⟩ : Pending Node) = none := by
            rw [next?]
          simp only [loop?, call, StateT.run, hnext]
      | cons node rest =>
          rw [length_sequence_cons] at hturns
          by_cases hjudged : isJudged node = true
          · have hnext : next? ⟨node :: rest⟩ = some (node, ⟨children node ++ rest⟩) := by
              rw [next?, if_pos hjudged]
            rw [loop?, if_pos hjudged]
            simp only [call, StateT.run, hnext]
          · have hnext : next? ⟨node :: rest⟩ = next? ⟨children node ++ rest⟩ := by
              rw [next?, if_neg hjudged]
            have hcall : call.run (⟨node :: rest⟩ : Pending Node) =
                call.run ⟨children node ++ rest⟩ := by
              simp only [call, StateT.run, hnext]
            rw [loop?, if_neg hjudged, hcall]
            apply ih
            omega

/-! ### Calls in a row -/

/-- A call answers with the first of the nodes to come, and the others are still to come. -/
theorem call_run (pending : Pending Node) :
    (call.run pending).1 = pending.toCome.head? ∧
      (call.run pending).2.toCome = pending.toCome.tail := by
  have hsequence := sequence_filter_of_next? pending
  simp only [call, StateT.run, toCome_eq, hsequence]
  cases pending.next? with
  | none => exact ⟨rfl, rfl⟩
  | some found => exact ⟨rfl, rfl⟩

/-- Some calls in a row, whatever they answer. -/
def calls : Nat → StateM (Pending Node) (List (Option Node))
  | 0 => return []
  | count + 1 => do
      let answer ← call
      let answers ← calls count
      return answer :: answers

theorem run_calls_succ (count : Nat) (pending : Pending Node) :
    (calls (count + 1)).run pending =
      ((call.run pending).1 :: ((calls count).run (call.run pending).2).1,
        ((calls count).run (call.run pending).2).2) := rfl

theorem run_calls (count : Nat) (pending : Pending Node) :
    ((calls count).run pending).1 =
        (pending.toCome.take count).map some ++
          List.replicate (count - pending.toCome.length) none ∧
      ((calls count).run pending).2.toCome = pending.toCome.drop count := by
  -- The first call takes the first node; the others are calls from where it leaves off.
  induction count generalizing pending with
  | zero =>
      rw [Nat.zero_sub, List.replicate_zero, List.take_zero, List.drop_zero]
      exact ⟨rfl, rfl⟩
  | succ count ih =>
      obtain ⟨hanswer, hrest⟩ := call_run pending
      obtain ⟨hanswers, hlater⟩ := ih (call.run pending).2
      rw [run_calls_succ, hanswer, hanswers, hlater, hrest]
      cases pending.toCome with
      | nil => simp [List.replicate_succ]
      | cons node rest => simp

end Pending

/-- The first calls on a tree answer with the first of its eligible nodes, and with nothing once
these are used up. What the stack then stands for are the eligible nodes not yet answered with,
and the loop of the next call ends, after no more turns than there are nodes on the stack and below
it and one. -/
theorem calls_eligible (root : Node) (count : Nat) :
    ∃ answers pending, (Pending.calls count).run (Pending.start root) = (answers, pending) ∧
      answers = ((eligible root).take count).map some ++
        List.replicate (count - (eligible root).length) none ∧
      pending.stack.flatMap eligible = (eligible root).drop count ∧
      ∀ more : Nat,
        Pending.loop? ((pending.stack.flatMap preorder).length + 1 + more) pending =
          some (Pending.call.run pending) := by
  have hstart : (Pending.start root).toCome = eligible root :=
    List.flatMap_singleton eligible root
  obtain ⟨hanswers, hleft⟩ := Pending.run_calls count (Pending.start root)
  rw [hstart] at hanswers hleft
  refine ⟨_, _, rfl, hanswers, hleft, ?_⟩
  intro more
  apply Pending.loop?_eq_call
  rw [Pending.sequence]
  omega

end NamingCheck.EntityTree
