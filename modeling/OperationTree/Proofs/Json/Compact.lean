import Mathlib.Data.List.Forall2
import OperationTree.Writing
import OperationTree.Proofs.Json.NumberSpelling
import OperationTree.Proofs.Json.TextSpelling

namespace OperationTree.Json

open TextScan (Spelled spelled_flatMap_escape)

theorem writes_writeText (s : String) : Writes (.text s) (writeText s) :=
  .text (spelled_flatMap_escape s.toList)

theorem writes_writeNatural (n : UInt64) : Writes (.number (.natural n)) (writeNatural n) :=
  .number (ofText?_toDigits n)

theorem writesMember_writeMember (key : String) {v : Value} {w : List Char}
    (written : Writes v w) : WritesMember (key, v) (writeMember key w) := by
  have member := WritesMember.intro blanks_nil (spelled_flatMap_escape key.toList) blanks_nil
    blanks_nil written blanks_nil
  simpa [writeMember, writeText] using member

theorem writesMembers_intercalate {m : String × Value} {w : List Char}
    {ms : List (String × Value)} {ws : List (List Char)} (first : WritesMember m w)
    (later : List.Forall₂ WritesMember ms ws) :
    WritesMembers (m :: ms) ([','].intercalate (w :: ws)) := by
  induction later generalizing m w with
  | nil => simpa using WritesMembers.last first
  | cons second _ ih =>
    have rest := ih second
    simpa using WritesMembers.more first rest

theorem writesItems_intercalate {v : Value} {w : List Char} {vs : List Value}
    {ws : List (List Char)} (first : Writes v w) (later : List.Forall₂ Writes vs ws) :
    WritesItems (v :: vs) ([','].intercalate (w :: ws)) := by
  induction later generalizing v w with
  | nil => simpa using WritesItems.last blanks_nil first blanks_nil
  | cons second _ ih =>
    have rest := ih second
    simpa using WritesItems.more blanks_nil first blanks_nil rest

theorem writes_writeObject {members : List (String × Value)} {ws : List (List Char)}
    (written : List.Forall₂ WritesMember members ws) :
    Writes (.object members) (writeObject ws) := by
  cases written with
  | nil => exact .noMembers blanks_nil
  | cons first later => exact .object (writesMembers_intercalate first later)

theorem writes_writeArray {items : List Value} {ws : List (List Char)}
    (written : List.Forall₂ Writes items ws) : Writes (.array items) (writeArray ws) := by
  cases written with
  | nil => exact .noItems blanks_nil
  | cons first later => exact .array (writesItems_intercalate first later)

theorem isDocument_of_writes {v : Value} {w : List Char} (written : Writes v w) :
    IsDocument v w := by
  have document := IsDocument.intro blanks_nil written blanks_nil
  simpa using document

end OperationTree.Json
