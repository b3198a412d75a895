import TypedClients.Text.Utf8

/-!
# Ends of lines

A line of a file may end with a line feed, a carriage return, or both. Texts that are read from files
have line feeds only.
-/
namespace TypedClients.Text

/-- Carriage returns, alone or before a line feed, become line feeds. -/
def unifyLineEnds : List Char → List Char
  | [] => []
  | '\r' :: '\n' :: cs => '\n' :: unifyLineEnds cs
  | '\r' :: cs => '\n' :: unifyLineEnds cs
  | c :: cs => c :: unifyLineEnds cs

/-- The text of a file. -/
def decodeText (bytes : List UInt8) : Except DecodeError String :=
  (decodeUtf8 bytes).map fun cs => String.ofList (unifyLineEnds cs)

theorem unifyLineEnds_of_notMem {cs : List Char} (h : '\r' ∉ cs) : unifyLineEnds cs = cs := by
  induction cs with
  | nil => rfl
  | cons c cs ih =>
      rw [List.mem_cons, not_or] at h
      have hc : c ≠ '\r' := Ne.symm h.1
      rw [unifyLineEnds.eq_4 _ _ (fun _ hcr _ => hc hcr) hc, ih h.2]

theorem length_unifyLineEnds (cs : List Char) : (unifyLineEnds cs).length ≤ cs.length := by
  fun_induction unifyLineEnds cs <;> simp_all
  omega

end TypedClients.Text
