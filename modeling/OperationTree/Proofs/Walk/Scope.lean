import Mathlib.Data.List.Basic
import OperationTree.Proofs.Walk.Height
import OperationTree.Proofs.Walk.Places
import OperationTree.Proofs.Walk.Table
import OperationTree.Proofs.Walk.Threads

/-!
Arguments belong to subtrees. What a hook hands on reaches all that is below its operation and
nothing else, so that an operation receives what the operations above it made of the first argument.
-/

namespace OperationTree

/-- A call of a hook, with the argument that came with it. -/
structure Receipt (α : Type) where
  path : List Nat
  hook : KindTag
  operation : Operation
  argument : α
  deriving DecidableEq, Repr

/-- What a hook hands to the children in place of its own argument, and what it returns in the end.
The result may depend on all that was received by then. -/
structure Handover (α ω : Type) where
  hand : α → α
  result : Operation → α → List (Receipt α) → Option ω

namespace Handover

variable {α ω ε β : Type}

def receive (t : Operation) (arg : α) (s : Journal (List (Receipt α))) :
    Journal (List (Receipt α)) :=
  { s with state := s.state ++ [⟨s.path, t.kind.tag, t, arg⟩] }

def walker (hooks : KindTag → Option (Handover α ω)) (limit : UInt32)
    (ofGuard : DepthExceeded → ε) : ThreadedWalker α ω (Journal (List (Receipt α))) ε where
  limit := limit
  ofGuard := ofGuard
  hook tag t arg depth children := do
    modify (receive t arg)
    match hooks tag with
    | none => ThreadedHook.descend t arg depth (children.mapIdx ThreadedChild.numbered)
    | some h =>
      visitAllWith (children.mapIdx ThreadedChild.numbered) (h.hand arg) depth
      return h.result t arg (← get).state

def handed (hooks : KindTag → Option (Handover α ω)) (tag : KindTag) : α → α :=
  (hooks tag).elim id hand

def answer (hooks : KindTag → Option (Handover α ω)) (t : Operation) (arg : α)
    (receipts : List (Receipt α)) : Option ω :=
  (hooks t.kind.tag).bind fun h => h.result t arg receipts

/-- The argument that arrives at a place, when the root gets `arg`. -/
def received (hooks : KindTag → Option (Handover α ω)) (t : Operation) (arg : α)
    (path : List Nat) : α :=
  (t.above path).foldl (fun arg u => handed hooks u.kind.tag arg) arg

variable {hooks : KindTag → Option (Handover α ω)} {limit : UInt32} {ofGuard : DepthExceeded → ε}

theorem received_root (t : Operation) (arg : α) : received hooks t arg [] = arg := rfl

theorem received_cons {t child : Operation} {index : Nat}
    (present : t.children[index]? = some child) (arg : α) (way : List Nat) :
    received hooks t arg (index :: way) =
      received hooks child (handed hooks t.kind.tag arg) way := by
  rw [received, Operation.above_cons present, List.foldl_cons, received]

theorem received_append {t u : Operation} {path : List Nat} (found : t.at? path = some u)
    (arg : α) (way : List Nat) :
    received hooks t arg (path ++ way) = received hooks u (received hooks t arg path) way := by
  induction path generalizing t arg with
  | nil =>
    cases found
    rfl
  | cons index path ih =>
    rw [Operation.at?] at found
    split at found
    · next child present =>
      rw [List.cons_append, received_cons present, received_cons present, ih found]
    · cases found

def receipt (hooks : KindTag → Option (Handover α ω)) (path : List Nat) (t : Operation) (arg : α)
    (q : Place) : Receipt α :=
  ⟨q.1, q.2.kind.tag, q.2, received hooks t arg (q.1.drop path.length)⟩

theorem receipts_child {t child : Operation} {index : Nat}
    (present : t.children[index]? = some child) (path : List Nat) (arg : α) :
    (child.places (path ++ [index])).map
        (receipt hooks (path ++ [index]) child (handed hooks t.kind.tag arg)) =
      (child.places (path ++ [index])).map (receipt hooks path t arg) := by
  apply List.map_congr_left
  intro q among
  obtain ⟨way, route, _⟩ := (Operation.mem_places _ child).mp among
  have below : q.1.drop (path ++ [index]).length = way := by
    rw [route, List.drop_left]
  have above : q.1.drop path.length = index :: way := by
    rw [route, List.append_assoc, List.drop_left, List.singleton_append]
  rw [receipt, receipt, below, above, received_cons present]

/-- From the place the run succeeds, is back there in the end and has added the receipts. -/
def Delivers (path : List Nat) (receipts : List (Receipt α)) (result : List (Receipt α) → β)
    (run : Run (Journal (List (Receipt α))) ε β) : Prop :=
  ∀ s, s.path = path → ∃ last, run.run.run s = (.ok (result last.state), last) ∧
    last.path = path ∧ last.state = s.state ++ receipts

theorem Delivers.inside {path : List Nat} {index : Nat} {receipts : List (Receipt α)}
    {result : List (Receipt α) → β} {run : Run (Journal (List (Receipt α))) ε β}
    (delivers : Delivers (path ++ [index]) receipts result run) :
    Delivers path receipts result (Journal.inside index run) := by
  rintro s rfl
  obtain ⟨last, ran, _, added⟩ := delivers (s.step index) rfl
  refine ⟨{ last with path := s.path }, ?_, rfl, added⟩
  rw [Journal.run_inside, ran]

theorem Delivers.seq {path : List Nat} {first later : List (Receipt α)}
    {result : List (Receipt α) → β} {run : Run (Journal (List (Receipt α))) ε β}
    {next : Run (Journal (List (Receipt α))) ε Unit} (delivers : Delivers path first result run)
    (onward : Delivers path later (fun _ => ()) next) :
    Delivers path (first ++ later) (fun _ => ()) (run >>= fun _ => next) := by
  intro s here
  obtain ⟨middle, ran, back, added⟩ := delivers s here
  obtain ⟨last, ranOn, again, addedOn⟩ := onward middle back
  refine ⟨last, ?_, again, ?_⟩
  · rw [run_bind, ran]
    exact ranOn
  · rw [addedOn, added, List.append_assoc]

theorem hook_eq (t : Operation) (arg : α) (depth : Depth)
    (children : List (ThreadedChild α ω (Journal (List (Receipt α))) ε)) :
    (walker hooks limit ofGuard).hook t.kind.tag t arg depth children = do
      modify (receive t arg)
      visitAllWith (children.mapIdx ThreadedChild.numbered) (handed hooks t.kind.tag arg) depth
      return answer hooks t arg (← get).state := by
  simp only [walker, handed, answer]
  cases hooks t.kind.tag <;> rfl

theorem delivers_dispatch {t : Operation} {arg : α} {depth : Depth} {path : List Nat}
    (below : Delivers path ((Operation.placesAll path 0 t.children).map (receipt hooks path t arg))
      (fun _ => ()) (visitAllWith (((walker hooks limit ofGuard).offer t.children).mapIdx
        ThreadedChild.numbered) (handed hooks t.kind.tag arg) depth)) :
    Delivers path ((t.places path).map (receipt hooks path t arg)) (answer hooks t arg)
      ((walker hooks limit ofGuard).dispatch t arg depth) := by
  rintro s rfl
  obtain ⟨last, ran, back, added⟩ := below (receive t arg s) rfl
  have own : receipt hooks s.path t arg (s.path, t) = ⟨s.path, t.kind.tag, t, arg⟩ := by
    rw [receipt, List.drop_length, received_root]
  refine ⟨last, ?_, back, ?_⟩
  · rw [ThreadedWalker.dispatch_eq, hook_eq]
    show (visitAllWith _ _ depth >>= fun _ => _).run.run (receive t arg s) = _
    rw [run_bind, ran]
    rfl
  · rw [added, Operation.places_eq, List.map_cons, own, receive, List.append_assoc,
      List.singleton_append]

mutual
theorem delivers_visit {n : Nat} (path : List Nat) (arg : α) : (t : Operation) →
    n + t.height ≤ limit.toNat →
    Delivers path ((t.places path).map (receipt hooks path t arg)) (answer hooks t arg)
      ((walker hooks limit ofGuard).visit t arg (.level limit n))
  | ⟨kind, span, children⟩, within => by
    rw [Operation.height] at within
    have reached : Depth.Reaches limit (n + 1) :=
      Nat.le_trans (Nat.min_le_left _ _) (by omega)
    have entered := ThreadedWalker.visit_of_reaches (walker hooks limit ofGuard) reached
      ⟨kind, span, children⟩ arg
    have below := delivers_visits (n := n + 1) path arg ⟨kind, span, children⟩ 0 children rfl
      (by omega)
    simp only [Nat.zero_add] at below
    show Delivers path _ _ ((walker hooks limit ofGuard).visit _ arg
      (.level (walker hooks limit ofGuard).limit n))
    rw [entered]
    exact delivers_dispatch below
theorem delivers_visits {n : Nat} (path : List Nat) (arg : α) (t : Operation) (first : Nat) :
    (ts : List Operation) → t.children.drop first = ts →
    n + Operation.heightAll ts ≤ limit.toNat →
    Delivers path ((Operation.placesAll path first ts).map (receipt hooks path t arg)) (fun _ => ())
      (visitAllWith (((walker hooks limit ofGuard).offer ts).mapIdx
        fun index child => child.numbered (first + index))
        (handed hooks t.kind.tag arg) (.level limit n))
  | [], _, _ => fun s here => ⟨s, rfl, here, (List.append_nil _).symm⟩
  | child :: later, rest, within => by
    rw [Operation.heightAll] at within
    obtain ⟨present, onward⟩ := Operation.getElem?_of_drop_eq rest
    have head := delivers_visit (n := n) (path ++ [first]) (handed hooks t.kind.tag arg) child
      (by omega)
    have tail := delivers_visits (n := n) path arg t (first + 1) later onward (by omega)
    have step (index : Nat) : first + 1 + index = first + (index + 1) := by omega
    simp only [step] at tail
    rw [receipts_child present] at head
    rw [ThreadedWalker.offer, List.mapIdx_cons, visitAllWith_cons, Operation.placesAll,
      List.map_append]
    exact head.inside.seq tail
end

/-- Every operation is dispatched once, in pre-order, and receives what the operations above it hand
on of the first argument, one after another from the root down. What an operation hands on arrives
at its children alike, early or late, and is the first argument of all that is below each of them;
where no operation above hands on something else, nothing changes. The root answers for itself, and
with nothing when it merely descends. -/
theorem scoped_walk (hooks : KindTag → Option (Handover α ω)) {limit : UInt32}
    (ofGuard : DepthExceeded → ε) {t : Operation} (shallow : t.height ≤ limit.toNat) (arg : α) :
    let ended := (walker hooks limit ofGuard).run (some t) arg { state := [] }
    ended.2.state = (t.places []).map (fun q => ⟨q.1, q.2.kind.tag, q.2,
      (t.above q.1).foldl (fun arg u => handed hooks u.kind.tag arg) arg⟩) ∧
    ended.1 = .ok ((hooks t.kind.tag).bind fun h => h.result t arg ended.2.state) ∧
    (∀ path u index child way, t.at? path = some u → u.children[index]? = some child →
      received hooks t arg (path ++ index :: way) =
        received hooks child (handed hooks u.kind.tag (received hooks t arg path)) way) ∧
    ∀ (others : KindTag → Option (Handover α ω)) (path : List Nat),
      (∀ u ∈ t.above path, handed others u.kind.tag = handed hooks u.kind.tag) →
        received others t arg path = received hooks t arg path := by
  intro ended
  have within : 0 + t.height ≤ limit.toNat := by rwa [Nat.zero_add]
  have delivers : Delivers [] ((t.places []).map (receipt hooks [] t arg)) (answer hooks t arg)
      ((walker hooks limit ofGuard).visit t arg (.level limit 0)) :=
    delivers_visit [] arg t within
  obtain ⟨last, ran, _, added⟩ := delivers { state := [] } rfl
  have same : ended = (.ok (answer hooks t arg last.state), last) := ran
  rw [same]
  refine ⟨added, rfl, ?_, ?_⟩
  · intro path u index child way found present
    rw [received_append found, received_cons present]
  · intro others path alike
    apply List.foldl_ext
    intro arg u above
    rw [alike u above]

/-- A function hands on a higher number than it received. What stands beside it, before or after,
does not notice. -/
theorem scoped_walk_beside :
    let local' : Operation := ⟨.localReference "x", {}, []⟩
    let tree : Operation := ⟨.block, {}, [local', ⟨.anonymousFunction, {}, [local']⟩, local']⟩
    let hooks : KindTag → Option (Handover Nat Nat)
      | .anonymousFunction => some ⟨(· + 1), fun _ arg _ => some arg⟩
      | _ => none
    let ended := (walker hooks 3 id).run (some tree) 7 { state := [] }
    tree.height ≤ 3 ∧ ended.1 = .ok none ∧
      ended.2.state.map Receipt.path = [[], [0], [1], [1, 0], [2]] ∧
      ended.2.state.map Receipt.argument = [7, 7, 7, 8, 7] := by
  intro local' tree hooks ended
  have shallow : tree.height ≤ (3 : UInt32).toNat := by decide
  obtain ⟨receipts, answered, _, _⟩ := scoped_walk hooks id shallow 7
  refine ⟨shallow, answered, ?_, ?_⟩
  · rw [receipts]
    rfl
  · rw [receipts]
    rfl

end Handover

end OperationTree
