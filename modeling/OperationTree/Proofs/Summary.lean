import OperationTree.Proofs.Json.Compact
import OperationTree.Proofs.Walk.Census

/-!
The document about a tree: an object of its numbers, laid out with a member to a line and two more
spaces for each object around it.
-/

namespace OperationTree

namespace Json

open TextScan (spelled_flatMap_escape)

/-- The characters write the member on a line of its own, whatever blanks come after it. -/
def OnLine (m : String × Value) (w : List Char) : Prop :=
  ∀ after, Blanks after → WritesMember m ('\n' :: w ++ after)

theorem onLine_member {key : String} (plain : key.toList.flatMap escape = key.toList)
    {margin : List Char} (blank : Blanks margin) {v : Value} {w : List Char}
    (written : Writes v w) :
    OnLine (key, v) (margin ++ '"' :: key.toList ++ '"' :: ':' :: ' ' :: w) := by
  intro after blanks
  have spelled := spelled_flatMap_escape key.toList
  rw [plain] at spelled
  have member := WritesMember.intro (blanks_cons (c := '\n') rfl blank) spelled blanks_nil
    (blanks_cons (c := ' ') rfl blanks_nil) written blanks
  simpa using member

theorem writesMembers_lines {m : String × Value} {w : List Char} {ms : List (String × Value)}
    {ws : List (List Char)} {closing : List Char} (blank : Blanks closing) (first : OnLine m w)
    (later : List.Forall₂ OnLine ms ws) :
    WritesMembers (m :: ms) ('\n' :: [',', '\n'].intercalate (w :: ws) ++ closing) := by
  induction later generalizing m w with
  | nil => simpa using WritesMembers.last (first closing blank)
  | cons second _ ih =>
    have rest := ih second
    have line := first [] blanks_nil
    simpa using WritesMembers.more line rest

theorem writes_lines {ms : List (String × Value)} {ws : List (List Char)} {closing : List Char}
    (present : ms ≠ []) (blank : Blanks closing) (each : List.Forall₂ OnLine ms ws) :
    Writes (.object ms) ('{' :: '\n' :: [',', '\n'].intercalate ws ++ closing ++ ['}']) := by
  cases each with
  | nil => exact absurd rfl present
  | cons first later =>
    have members := writesMembers_lines blank first later
    simpa using Writes.object members

def natural (n : Nat) : Value := .number (.natural (UInt64.ofNat n))

theorem writes_natural {n : Nat} (fits : n < 2 ^ 64) :
    Writes (natural n) (Nat.toDigits 10 n) := by
  have written := writes_writeNatural (UInt64.ofNat n)
  rwa [writeNatural, UInt64.toNat_ofNat_of_lt' fits] at written

end Json

namespace Stats

open Json (Value IsDocument OnLine natural)

/-- What the document holds. -/
def toValue (s : Stats) : Value :=
  .object [("nodes", natural s.nodes), ("max_depth", natural s.maxDepth.toNat),
    ("placeholders", natural s.placeholders),
    ("kinds", .object (s.kinds.map fun entry => (entry.1, natural entry.2)))]

def kindLine (entry : String × Nat) : String :=
  "    \"" ++ entry.1 ++ "\": " ++ toString entry.2

def kindLines : List (String × Nat) → List String
  | [] => []
  | [entry] => [kindLine entry]
  | entry :: later => (kindLine entry ++ ",") :: kindLines later

/-- The lines of the document. The kinds stand in an object inside, and their lines end in a comma
but for the last. -/
def documentLines (s : Stats) : List String :=
  ["\x7b", "  \"nodes\": " ++ toString s.nodes ++ ",",
    "  \"max_depth\": " ++ toString s.maxDepth.toNat ++ ",",
    "  \"placeholders\": " ++ toString s.placeholders ++ ",", "  \"kinds\": \x7b"] ++
  kindLines s.kinds ++ ["  \x7d", "\x7d"]

theorem join_kindLines (entry : String × Nat) (later : List (String × Nat)) :
    String.join ((kindLines (entry :: later)).map (· ++ "\n")) =
      ",\n".intercalate ((entry :: later).map kindLine) ++ "\n" := by
  induction later generalizing entry with
  | nil => simp [kindLines]
  | cons second later ih =>
    have onward := ih second
    rw [List.map_cons] at onward
    rw [kindLines, List.map_cons, String.join_cons, onward, List.map_cons, List.map_cons,
      String.intercalate_cons_cons]
    · simp only [String.append_assoc]
      rfl
    · nofun

theorem toDocument_of_kinds {s : Stats} (present : s.kinds ≠ []) :
    s.toDocument = "\x7b\n" ++ "  \"nodes\": " ++ toString s.nodes ++ ",\n" ++
      "  \"max_depth\": " ++ toString s.maxDepth.toNat ++ ",\n" ++
      "  \"placeholders\": " ++ toString s.placeholders ++ ",\n" ++ "  \"kinds\": " ++
      ("\x7b\n" ++ ",\n".intercalate (s.kinds.map kindLine) ++ "\n  \x7d") ++ "\n\x7d\n" := by
  have filled : ¬ (s.kinds.map kindLine).isEmpty = true := by simpa using present
  delta toDocument
  exact congrArg (_ ++ · ++ _) (if_neg filled)

theorem toDocument_eq {s : Stats} (present : s.kinds ≠ []) :
    s.toDocument = String.join (s.documentLines.map (· ++ "\n")) := by
  obtain ⟨entry, later, listed⟩ := List.exists_cons_of_ne_nil present
  rw [toDocument_of_kinds present, documentLines, listed, List.map_append, List.map_append,
    String.join_append, String.join_append, join_kindLines]
  apply String.toList_injective
  simp

theorem plain_name (tag : KindTag) : tag.name.toList.flatMap Json.escape = tag.name.toList := by
  cases tag <;> rfl

theorem blanks_spaces (n : Nat) : Json.Blanks (List.replicate n ' ') := by
  intro c among
  rw [List.eq_of_mem_replicate among]
  rfl

variable {seen : List Kind} {s : Stats}

theorem Counts.kinds_ne_nil (counts : s.Counts seen) (present : seen ≠ []) : s.kinds ≠ [] := by
  intro none
  have sum := counts.sum_kinds
  rw [none, counts.nodes] at sum
  exact present (List.length_eq_zero_iff.mp sum.symm)

theorem Counts.onLine (counts : s.Counts seen) (small : seen.length < 2 ^ 64) :
    List.Forall₂ OnLine (s.kinds.map fun entry => (entry.1, natural entry.2))
      ((s.kinds.map kindLine).map String.toList) := by
  rw [List.map_map, List.forall₂_map_left_iff, List.forall₂_map_right_iff, List.forall₂_same]
  intro entry among
  obtain ⟨named, counted⟩ := (counts.mem_iff entry.1 entry.2).mp among
  obtain ⟨kind, _, name⟩ := List.mem_map.mp named
  have bound := List.count_le_length (a := entry.1) (l := seen.map Kind.name)
  rw [counted, List.length_map] at bound
  have plain : entry.1.toList.flatMap Json.escape = entry.1.toList := name ▸ plain_name kind.tag
  have line := Json.onLine_member plain (blanks_spaces 4)
    (Json.writes_natural (bound.trans_lt small))
  simpa [kindLine] using line

theorem Counts.isDocument (counts : s.Counts seen) (listed : s.kinds ≠ [])
    (small : seen.length < 2 ^ 64) : IsDocument s.toValue s.toDocument.toList := by
  have margin := blanks_spaces 2
  have kinds := Json.writes_lines (by simpa using listed)
    (Json.blanks_cons (c := '\n') rfl margin) (counts.onLine small)
  have few : s.placeholders < 2 ^ 64 := by
    rw [counts.placeholders]
    exact List.countP_le_length.trans_lt small
  have low : s.maxDepth.toNat < 2 ^ 64 := s.maxDepth.toNat_lt.trans (by decide)
  have nodes : OnLine ("nodes", natural s.nodes) _ :=
    Json.onLine_member rfl margin (Json.writes_natural (counts.nodes ▸ small))
  have depth : OnLine ("max_depth", natural s.maxDepth.toNat) _ :=
    Json.onLine_member rfl margin (Json.writes_natural low)
  have placeholders : OnLine ("placeholders", natural s.placeholders) _ :=
    Json.onLine_member rfl margin (Json.writes_natural few)
  -- the object of the kinds begins on the line of its key
  have kindsLine : OnLine ("kinds", .object _) _ := Json.onLine_member rfl margin kinds
  have ending := Json.blanks_cons (c := '\n') rfl Json.blanks_nil
  have written := Json.writes_lines (List.cons_ne_nil _ _) ending
    (.cons nodes (.cons depth (.cons placeholders (.cons kindsLine .nil))))
  have document := IsDocument.intro Json.blanks_nil written ending
  rw [toDocument_of_kinds listed]
  simpa [toValue] using document

theorem Exact.kinds_ne_nil {t : Operation} (exact : s.Exact t) : s.kinds ≠ [] := by
  refine exact.toCounts.kinds_ne_nil fun none => ?_
  have size := t.length_kinds
  rw [none, t.size_eq, List.length_nil] at size
  omega

end Stats

end OperationTree
