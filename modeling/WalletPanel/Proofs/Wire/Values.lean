import WalletPanel.Proofs.Wire.Records

/-!
# Records that are read as values

A record that was written can also be read by someone who knows nothing of its type. Such a reader
finds an object with the members of the record in the order of declaration, each with its own text
or number (`Schema.value_write`).
-/

namespace WalletPanel.Wire

/-- The value of a member that was written is read, however deep it is. -/
theorem Kind.value_write {k : Kind} {v : k.Carrier} {written rest : List Char}
    (h : k.write v = some written) (hr : EndsNumber rest) (depth : Nat) :
    Reader.value depth (written ++ rest) = .ok (k.valueOf v) rest := by
  have hlead := lead_write h hr
  -- no kind is written with a bracket, so that any depth will do
  cases depth with
  | zero =>
    rw [Reader.value, Reader.bind_of_ok hlead]
    cases k with
    | moment => cases v <;> rfl
    | _ => rfl
  | succ depth =>
    rw [Reader.value, Reader.bind_of_ok hlead]
    cases k with
    | moment => cases v <;> rfl
    | _ => rfl

/-- The members of a row that are written, each as its key and its value. -/
def rowValues : (fs : List Field) → Row fs → List (String × Value)
  | [], _ => []
  | f :: fs, (v, row) =>
    match f.kind.write v with
    | some _ => (f.name, f.kind.valueOf v) :: rowValues fs row
    | none => rowValues fs row

/-- The keys that are read are those of the fields. -/
theorem key_mem_rowValues {fs : List Field} {row : Row fs} {m : String × Value}
    (h : m ∈ rowValues fs row) : m.1 ∈ fs.map (·.name) := by
  -- both rows have the same keys, since they leave out the same members
  have hkeys : ∀ (fs : List Field) (row : Row fs),
      (rowValues fs row).map Prod.fst = (rowMembers fs row).map Prod.fst := by
    intro fs
    induction fs with
    | nil => exact fun _ => rfl
    | cons f fs ih =>
      rintro ⟨v, row⟩
      unfold rowValues rowMembers
      cases f.kind.write v with
      | none => exact ih row
      | some written => exact congrArg (f.name :: ·) (ih row)
  have hm := List.mem_map_of_mem (f := Prod.fst) h
  rw [hkeys] at hm
  obtain ⟨n, hn, hname⟩ := List.mem_map.mp hm
  rw [← hname]
  exact key_mem_rowMembers hn

/-- How a reader of values takes a member in, the last one first. -/
def Reader.keep (depth : Nat) (done : List (String × Value)) (key : String) :
    Reader (List (String × Value)) := do
  Reader.colon
  let v ← Reader.value depth
  pure ((key, v) :: done)

/-- The members of a row are kept as the values that they were written for. -/
theorem gathers_values (depth : Nat) (fs : List Field) (row : Row fs)
    (done : List (String × Value)) :
    Reader.Gathers (Reader.keep depth) done (rowMembers fs row)
      ((rowValues fs row).reverse ++ done) := by
  -- what has been kept grows at its front, so that the row comes out in reverse
  induction fs generalizing done with
  | nil => exact .done done
  | cons f fs ih =>
    obtain ⟨v, row⟩ := row
    unfold rowMembers rowValues
    cases hw : f.kind.write v with
    | none => exact ih row done
    | some written =>
      have hmore := ih row ((f.name, f.kind.valueOf v) :: done)
      dsimp only
      rw [List.reverse_cons, List.append_assoc]
      refine .step (fun rest hr => ?_) hmore
      calc Reader.keep depth done f.name (':' :: (written ++ rest))
          = (Reader.value depth >>= _) (written ++ rest) :=
            Reader.bind_of_ok (Reader.colon_cons _)
        _ = .ok ((f.name, f.kind.valueOf v) :: done) rest :=
            Reader.bind_of_ok (Kind.value_write hw hr depth)

/-- **A record read as a value** is the object of its members. -/
theorem Schema.value_write {α : Type} (s : Schema α) (a : α) (depth : Nat) :
    (Reader.value (depth + 1)).run (s.write a)
      = .ok (.object (rowValues s.fields (s.toRow a))) := by
  have hw : s.write a
      = '\x7b' :: (joined ((rowMembers s.fields (s.toRow a)).map memberText) ++ ['\x7d']) := by
    unfold write
    rw [writeMembers_eq]
    rfl
  -- the members are gathered in the order in which they are written
  have hg := gathers_values depth s.fields (s.toRow a) []
  rw [List.append_nil] at hg
  refine Reader.run_of_ok ?_
  have hobject := Reader.objectOf_joined hg []
  rw [hw]
  calc Reader.value (depth + 1) ('\x7b' :: _)
      = (Reader.objectOf Reader.text _ [] >>= _) _ := Reader.bind_lead_object rfl _
    _ = .ok (.object _) [] := Reader.bind_of_ok hobject
  rw [List.reverse_reverse]

end WalletPanel.Wire
