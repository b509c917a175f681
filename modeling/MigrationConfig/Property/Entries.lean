/-
# Entries in order of insertion

A mapping whose order can be seen is a list of entries with distinct keys.  A
new key goes to the end; a key that is there already keeps its place and takes
the new value.  The lemmas say what this does to the keys and to a look-up.
-/

namespace MigrationConfig.Entries

variable {α β : Type} [BEq α]

/-- Gives the key `k` the value `v`. -/
def put (k : α) (v : β) : List (α × β) → List (α × β)
  | [] => [(k, v)]
  | e :: rest => if e.1 == k then (e.1, v) :: rest else e :: put k v rest

/-- The entries that a list of pairs leaves when they are put one by one. -/
def ofPairs (pairs : List (α × β)) : List (α × β) :=
  pairs.foldl (fun m e => put e.1 e.2 m) []

def get? (k : α) : List (α × β) → Option β
  | [] => none
  | e :: rest => if e.1 == k then some e.2 else get? k rest

def keys (m : List (α × β)) : List α := m.map Prod.fst

theorem put_cons (k : α) (v : β) (e : α × β) (rest : List (α × β)) :
    put k v (e :: rest) = if e.1 == k then (e.1, v) :: rest else e :: put k v rest := rfl

theorem get?_cons (k : α) (e : α × β) (rest : List (α × β)) :
    get? k (e :: rest) = if e.1 == k then some e.2 else get? k rest := rfl

omit [BEq α] in
theorem keys_cons (e : α × β) (rest : List (α × β)) : keys (e :: rest) = e.1 :: keys rest := rfl

variable [LawfulBEq α]

theorem mem_keys_put {k k' : α} {v : β} {m : List (α × β)} :
    k' ∈ keys (put k v m) ↔ k' = k ∨ k' ∈ keys m := by
  induction m with
  | nil => simp [keys, put]
  | cons e rest ih =>
      rw [put_cons]
      split
      · next h =>
          have he : e.1 = k := eq_of_beq h
          simp only [keys_cons, List.mem_cons, he]
          grind
      · simp only [keys_cons, List.mem_cons, ih]
        grind

theorem nodup_keys_put {k : α} {v : β} {m : List (α × β)} (h : (keys m).Nodup) :
    (keys (put k v m)).Nodup := by
  induction m with
  | nil => simp [keys, put]
  | cons e rest ih =>
      rw [keys_cons, List.nodup_cons] at h
      rw [put_cons]
      split
      · exact List.nodup_cons.2 h
      · next he =>
          rw [keys_cons, List.nodup_cons]
          refine ⟨fun hm => ?_, ih h.2⟩
          rcases mem_keys_put.1 hm with h' | h'
          · exact he (by simp [h'])
          · exact h.1 h'

theorem get?_put {k k' : α} {v : β} {m : List (α × β)} :
    get? k' (put k v m) = if k == k' then some v else get? k' m := by
  induction m with
  | nil => simp [put, get?]
  | cons e rest ih =>
      rw [put_cons]
      split
      · next h =>
          have he : e.1 = k := eq_of_beq h
          simp only [get?_cons, he]
          split <;> rfl
      · next h =>
          simp only [get?_cons, ih]
          by_cases hk : e.1 = k'
          · have : ¬ k = k' := fun hc => h (by simp [hk, hc])
            simp [hk, this]
          · simp [hk]

end MigrationConfig.Entries
