import Mathlib.Data.List.Nodup
import SessionTokens.Proofs.Store.Interchange

/-!
# A store and its history

What a store in memory holds is told by the calls that were made to it, from the empty store on: the
sessions that were added, each as it was answered, and blocked if some later call revoked it
(`recounts_run`). Every call keeps sessions under their own identifiers (`Keyed`), and only a revocation
touches a session that is there (`find?_perform`).
-/

namespace SessionTokens

open Time (Instant)

namespace StoreCall

variable {σ : Type} [SessionStore σ]

/-- The store after some calls. -/
def run (calls : List StoreCall) (store : σ) : σ :=
  calls.foldl (fun store c => (c.perform store).2) store

/-- The session that a call added, which is what an insertion answers if it succeeds. -/
def added? (c : StoreCall) (store : σ) : Option Session :=
  match c, (c.perform store).1 with
  | create _ _, .session (.ok s) => some s
  | _, _ => none

/-- The sessions that some calls added, in their order. -/
def added : List StoreCall → σ → List Session
  | [], _ => []
  | c :: r, store => (c.added? store).toList ++ added r (c.perform store).2

theorem run_append (a b : List StoreCall) (store : σ) : run (a ++ b) store = run b (run a store) :=
  List.foldl_append

end StoreCall

namespace MemoryStore

open StoreCall (run added create get block)

variable {m : MemoryStore}

/-- Each session is kept under its own identifier, and none twice. -/
structure Keyed (m : MemoryStore) : Prop where
  own : ∀ e ∈ m.entries, e.1 = e.2.id
  nodup : (m.entries.map Prod.fst).Nodup

theorem keyed_empty : empty.Keyed :=
  ⟨fun _ h => absurd h List.not_mem_nil, List.nodup_nil⟩

theorem find?_eq_none_iff {id : TokenId} : m.find? id = none ↔ id ∉ m.entries.map Prod.fst := by
  rw [find?, List.lookup_eq_none_iff, List.mem_map]
  constructor
  · rintro h ⟨e, he, rfl⟩
    exact absurd (h e he) (by simp)
  · intro h e he
    exact bne_iff_ne.mpr fun heq => h ⟨e, he, heq.symm⟩

/-! ## Insertions and revocations -/

theorem keyed_insert (hm : m.Keyed) (n : NewSession) (now : Instant) : (m.insert n now).2.Keyed := by
  refine ⟨forall_insert hm.own rfl, ?_⟩
  cases hfree : m.find? n.id with
  | some s =>
    rw [insert_of_some hfree]
    exact hm.nodup
  | none =>
    rw [insert_of_none hfree, List.map_append, List.map_singleton]
    refine List.nodup_append.mpr ⟨hm.nodup, List.nodup_singleton _, fun k hk j hj hkj => ?_⟩
    rw [hkj, List.mem_singleton.mp hj] at hk
    exact find?_eq_none_iff.mp hfree hk

/-- A revocation leaves every session in its place. -/
theorem map_fst_block (id : TokenId) (m : MemoryStore) :
    (m.block id).2.entries.map Prod.fst = m.entries.map Prod.fst := by
  unfold block
  split
  · rw [List.map_map]
    refine List.map_congr_left fun e _ => ?_
    simp only [Function.comp_apply]
    split <;> rfl
  · rfl

theorem keyed_block (hm : m.Keyed) (id : TokenId) : (m.block id).2.Keyed := by
  refine ⟨forall_block hm.own (fun _ h => h) id, ?_⟩
  rw [map_fst_block]
  exact hm.nodup

theorem find?_block_of_ne {id k : TokenId} (h : k ≠ id) (m : MemoryStore) :
    (m.block id).2.find? k = m.find? k := by
  rw [find?_block]
  simp [h]

/-! ## One call -/

theorem keyed_perform (hm : m.Keyed) (c : StoreCall) : (c.perform m).2.Keyed := by
  cases c with
  | create n now => exact keyed_insert hm n now
  | get id => exact hm
  | block id => exact keyed_block hm id

/-- **A call changes a session only by revoking it.** -/
theorem find?_perform (c : StoreCall) {id : TokenId} {s : Session} (hs : m.find? id = some s) :
    (c.perform m).2.find? id = some (if c = .block id then s.block else s) := by
  cases c with
  | create n now => exact find?_insert hs n now
  | get k => exact hs
  | block k =>
    show (m.block k).2.find? id = _
    rw [find?_block, hs, Option.map_some]
    simp only [StoreCall.block.injEq, eq_comm]

theorem added?_of_some {n : NewSession} {s : Session} (h : m.find? n.id = some s) (now : Instant) :
    (create n now).added? m = none := by
  have hinsert : (create n now).perform m = (.session (.error (.backend (taken n.id))), m) := by
    show (StoreAnswer.session (m.insert n now).1, (m.insert n now).2) = _
    rw [insert_of_some h]
  simp only [StoreCall.added?, hinsert]

theorem added?_of_none {n : NewSession} (h : m.find? n.id = none) (now : Instant) :
    (create n now).added? m = some (n.stored now) := by
  have hinsert : ((create n now).perform m).1 = .session (.ok (n.stored now)) := by
    show StoreAnswer.session (m.insert n now).1 = _
    rw [insert_of_none h]
  simp only [StoreCall.added?, hinsert]

/-- A call puts the identifier of the session that it added behind those that are there. -/
theorem map_fst_perform (c : StoreCall) (m : MemoryStore) :
    (c.perform m).2.entries.map Prod.fst
      = m.entries.map Prod.fst ++ (c.added? m).toList.map Session.id := by
  cases c with
  | create n now =>
    show (m.insert n now).2.entries.map Prod.fst = _
    cases hfree : m.find? n.id with
    | some s =>
      rw [added?_of_some hfree, insert_of_some hfree]
      simp
    | none =>
      rw [added?_of_none hfree, insert_of_none hfree, List.map_append]
      rfl
  | get id => exact (List.append_nil _).symm
  | block id => exact (map_fst_block id m).trans (List.append_nil _).symm

/-! ## Runs -/

theorem keyed_run (hm : m.Keyed) (calls : List StoreCall) : (run calls m).Keyed := by
  induction calls generalizing m with
  | nil => exact hm
  | cons c r ih => exact ih (keyed_perform hm c)

/-- **A session that is there stays as it is, but for the revocations of it.** -/
theorem find?_run (calls : List StoreCall) {id : TokenId} {s : Session} (hs : m.find? id = some s) :
    (run calls m).find? id
      = some { s with isBlocked := s.isBlocked || decide (StoreCall.block id ∈ calls) } := by
  induction calls generalizing m s with
  | nil => simpa [run] using hs
  | cons c r ih =>
    refine (ih (find?_perform c hs)).trans (congrArg some ?_)
    by_cases hc : c = StoreCall.block id
    · simp [hc, Session.block]
    · have hmem : StoreCall.block id ∈ c :: r ↔ StoreCall.block id ∈ r := by
        rw [List.mem_cons, or_iff_right (Ne.symm hc)]
      rw [if_neg hc]
      simp only [hmem]

theorem map_fst_run (calls : List StoreCall) (m : MemoryStore) :
    (run calls m).entries.map Prod.fst
      = m.entries.map Prod.fst ++ (added calls m).map Session.id := by
  induction calls generalizing m with
  | nil => exact (List.append_nil _).symm
  | cons c r ih =>
    show (run r (c.perform m).2).entries.map Prod.fst = _
    rw [ih, map_fst_perform, added, List.map_append, List.append_assoc]

/-- The store is what some calls have made of the empty one. -/
structure Recounts (calls : List StoreCall) (m : MemoryStore) : Prop where
  /-- Each session is kept under its own identifier, and none twice. -/
  keyed : m.Keyed
  /-- A session that was added is found as it was answered, blocked if it was so or was revoked since. -/
  kept : ∀ before n now after s m', calls = before ++ create n now :: after →
    (run before empty).insert n now = (.ok s, m') →
      s = n.stored now ∧
        m.find s.id = .ok { s with isBlocked := s.isBlocked || decide (StoreCall.block s.id ∈ after) }
  /-- The sessions are those that were added, and no others. -/
  ids : m.entries.map Prod.fst = (added calls empty).map Session.id
  size : m.size = (added calls empty).length
  /-- An identifier that is taken is not given away, and nothing is overwritten. -/
  duplicate : ∀ n now s, m.find? n.id = some s →
    ∃ message, m.insert n now = (.error (.backend message), m)
  /-- An identifier that is not taken is free. -/
  free : ∀ n now, m.find? n.id = none → (m.insert n now).1 = .ok (n.stored now)
  absent : ∀ id, m.find? id = none → m.find id = .error .notFound ∧ m.block id = (.error .notFound, m)
  /-- A revocation touches no other session. -/
  others : ∀ id k, k ≠ id → (m.block id).2.find? k = m.find? k

/-- **A store in memory is its history.** After whatever calls on the empty store, in whatever order: each
session is kept under its own identifier; whatever was added is found as it was answered then, blocked if it
was so from the start or was revoked since; and there are as many sessions as insertions that succeeded. An
insertion under a taken identifier fails and changes nothing; so does a look-up or a revocation of a session
that is not there; and a revocation changes no other session. -/
theorem recounts_run (calls : List StoreCall) : (run calls empty).Recounts calls where
  keyed := keyed_run keyed_empty calls
  kept := by
    intro before n now after s m' hcalls hinsert
    obtain ⟨hstored, hfind⟩ := find?_of_insert hinsert
    have hid : n.id = s.id := by rw [hstored]; rfl
    refine ⟨hstored, find_of_some ?_⟩
    rw [hcalls, StoreCall.run_append]
    show (run after ((run before empty).insert n now).2).find? s.id = _
    rw [hinsert]
    exact find?_run after (hid ▸ hfind)
  ids := map_fst_run calls empty
  size := by
    have hids := congrArg List.length (map_fst_run calls empty)
    simpa [MemoryStore.size, empty] using hids
  duplicate := fun n now s hs => ⟨_, insert_of_some hs⟩
  free := fun n now hfree => congrArg Prod.fst (insert_of_none hfree)
  absent := fun id hid => ⟨find_of_none hid, block_of_none hid⟩
  others := fun id k hne => find?_block_of_ne hne (run calls empty)

end MemoryStore

end SessionTokens
