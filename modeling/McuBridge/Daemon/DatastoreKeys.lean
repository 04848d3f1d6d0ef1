import McuBridge.Daemon.Link
import McuBridge.Daemon.TopicPaths

/-! # Keys of the datastore (`services/runtime.py`)

The MCU's value is cached under the key as it was sent, and published on a topic made of the key's pieces. A GET on
that topic joins the pieces again and asks the cache for the result. -/

namespace McuBridge
namespace Daemon
open Pieces

theorem joinSlash_segmentsOf_eq_nil (key : Text) : joinSlash (segmentsOf key) = [] ↔ segmentsOf key = [] := by
  constructor
  · intro h
    rw [← flatMap_segmentsOf, ← segmentsOf_joinSlash, h]
    rfl
  · intro h
    rw [h]
    rfl

/-- A key without a leading, trailing or doubled slash is what its pieces spell. -/
theorem canonical_iff (key : Text) :
    [] ∉ key.splitOn '/' ↔ segmentsOf key ≠ [] ∧ joinSlash (segmentsOf key) = key := by
  by_cases hkey : key = []
  · subst hkey
    simp [segmentsOf]
  · rw [← join_eq_iff '/' key hkey, ← segmentsOf_eq]
    constructor
    · intro h
      refine ⟨fun h0 => hkey ?_, h⟩
      rw [← h]
      exact (joinSlash_segmentsOf_eq_nil key).2 h0
    · exact And.right

/-- What `_publish_datastore_value` publishes, with its user properties. -/
structure DatastoreMessage where
  topic : Text
  value : Bytes
  key : Text
  error : Option Text := none
  deriving DecidableEq

namespace Service

def datastoreTopic (key : Text) (s : Service) : Text :=
  topicPath s.cloudTopicPrefix .datastore ("get".toList :: segmentsOf key)

/-- The answer of `_handle_datastore` to a GET. -/
def datastoreReply (route : TopicRoute) (s : Service) : Option DatastoreMessage :=
  let key := joinSlash route.remainder
  if key.isEmpty then none
  else
    match s.datastoreCache.bind fun cache => cache.lookup key with
    | some value => some ⟨s.datastoreTopic key, value, key, none⟩
    | none =>
      if route.remainder.getLast? = some "request".toList then
        some ⟨s.datastoreTopic key, [], key, some "datastore-miss".toList⟩
      else none

/-- `_handle_datastore` publishes it, after it has asked the cache. -/
theorem handleDatastore_get (h : Host) {route : TopicRoute} (hget : route.identifier = "get".toList)
    (req : BridgeRequest) (s : Service) :
    ∃ asked, (s.handleDatastore h route req).effects =
      s.effects ++ asked ++ ((s.datastoreReply route).map fun m => Effect.publish m.topic (.raw m.value)).toList ∧
      ∀ e ∈ asked, e = .datastoreGet (joinSlash route.remainder) := by
  unfold handleDatastore datastoreReply
  dsimp only
  split
  case isTrue => exact ⟨[], by simp, fun e he => absurd he List.not_mem_nil⟩
  case isFalse =>
    rw [hget, if_neg (by decide)]
    cases s.datastoreCache with
    | none =>
      refine ⟨[], ?_, fun e he => absurd he List.not_mem_nil⟩
      dsimp only [Option.bind_none]
      split
      · simp [publishDatastoreValue, publish, perform, datastoreTopic]
      · simp
    | some cache =>
      refine ⟨[.datastoreGet (joinSlash route.remainder)], ?_, by simp⟩
      dsimp only [Option.bind_some]
      cases cache.lookup (joinSlash route.remainder) with
      | some value => simp [publishDatastoreValue, publish, perform, datastoreTopic]
      | none =>
        dsimp only
        split
        · simp [publishDatastoreValue, publish, perform, datastoreTopic]
        · simp [perform]

/-! ### A GET on the topic of a put -/

/-- The MCU puts `value` under `key`, and a GET on the topic of the publication answers with `value`. -/
def ReadsBack (h : McuHost) (sent : Bool) (key value : Bytes) (s : Service) : Prop :=
  ∃ r topic route, onMcuDatastorePut h sent (.message (.datastorePut key value)) s = some r ∧
    r.service.effects.getLast? = some (.publish topic (.raw value)) ∧
    parseTopic s.cloudTopicPrefix topic = some route ∧ route.topic = .datastore ∧ route.identifier = "get".toList ∧
    ∃ m, r.service.datastoreReply route = some m ∧ m.value = value ∧ m.error = none

variable {s : Service}

theorem parseTopic_datastoreTopic (hsegments : segmentsOf s.cloudTopicPrefix ≠ []) (key : Text) :
    parseTopic s.cloudTopicPrefix (s.datastoreTopic key) =
      some ⟨s.datastoreTopic key, joinSlash (segmentsOf s.cloudTopicPrefix), .datastore,
        "get".toList :: segmentsOf key⟩ := by
  have hget : segmentsOf "get".toList = ["get".toList] := by decide
  rw [datastoreTopic, parseTopic_topicPath (ne_nil_of_segmentsOf hsegments), List.flatMap_cons, hget, flatMap_segmentsOf]
  rfl

theorem onMcuDatastorePut_service (h : McuHost) (sent : Bool) (key value : Bytes) {cache : List (Text × Bytes)}
    (hcache : s.datastoreCache = some cache) :
    ∃ r, onMcuDatastorePut h sent (.message (.datastorePut key value)) s = some r ∧
      r.service.cloudTopicPrefix = s.cloudTopicPrefix ∧
      r.service.datastoreCache = some ((h.text key, value) :: cache) ∧
      r.service.effects.getLast? = some (.publish (s.datastoreTopic (h.text key)) (.raw value)) := by
  refine ⟨_, rfl, ?_⟩
  rw [hcache]
  exact ⟨rfl, rfl, by simp [publishDatastoreValue, publish, perform, datastoreTopic]⟩

/-- The GET asks for the pieces of the key joined again. -/
theorem datastoreReply_of_topic {route : TopicRoute} {key : Text}
    (hsegs : route.segments = "get".toList :: segmentsOf key) {cache : List (Text × Bytes)}
    (hcache : s.datastoreCache = some cache) (value : Bytes) :
    (∃ m, s.datastoreReply route = some m ∧ m.value = value ∧ m.error = none) ↔
      segmentsOf key ≠ [] ∧ cache.lookup (joinSlash (segmentsOf key)) = some value := by
  have hrem : route.remainder = segmentsOf key := by rw [TopicRoute.remainder, hsegs, List.tail_cons]
  have hjoin := joinSlash_segmentsOf_eq_nil key
  unfold datastoreReply
  rw [hrem, hcache]
  dsimp only [Option.bind_some]
  by_cases hkey : segmentsOf key = []
  · rw [if_pos (by rw [hjoin.2 hkey]; rfl)]
    simp [hkey]
  · have hne : ¬ (joinSlash (segmentsOf key)).isEmpty = true := by
      rw [List.isEmpty_iff, hjoin]
      exact hkey
    rw [if_neg hne]
    cases cache.lookup (joinSlash (segmentsOf key)) with
    | some found => simp [hkey]
    | none =>
      dsimp only
      -- a miss is answered with an error, if at all
      split <;> simp

theorem readsBack_iff (h : McuHost) (sent : Bool) (key value : Bytes)
    (hsegments : segmentsOf s.cloudTopicPrefix ≠ []) {cache : List (Text × Bytes)} (hcache : s.datastoreCache = some cache) :
    s.ReadsBack h sent key value ↔ segmentsOf (h.text key) ≠ [] ∧
      ((h.text key, value) :: cache).lookup (joinSlash (segmentsOf (h.text key))) = some value := by
  obtain ⟨r, hr, hpre, hnew, hlast⟩ := onMcuDatastorePut_service h sent key value hcache
  have hroute := parseTopic_datastoreTopic hsegments (h.text key)
  constructor
  · rintro ⟨r', topic, route, hr', htopic, hparse, -, -, hreply⟩
    obtain rfl : r = r' := Option.some.inj (hr.symm.trans hr')
    rw [hlast] at htopic
    cases htopic
    obtain rfl := Option.some.inj (hroute.symm.trans hparse)
    exact (datastoreReply_of_topic rfl hnew value).1 hreply
  · intro hfound
    exact ⟨r, _, _, hr, hlast, hroute, rfl, rfl, (datastoreReply_of_topic rfl hnew value).2 hfound⟩

/-- A value is read back if nothing between the slashes of its key is empty, or if the key that its pieces spell held
the same value already. Two keys go to one topic if they have the same pieces. -/
theorem datastore_keys_agree_iff (hsegments : segmentsOf s.cloudTopicPrefix ≠ []) {cache : List (Text × Bytes)}
    (hcache : s.datastoreCache = some cache) :
    (∀ (h : McuHost) (sent : Bool) (key value : Bytes), s.ReadsBack h sent key value ↔
      [] ∉ (h.text key).splitOn '/' ∨
        segmentsOf (h.text key) ≠ [] ∧ cache.lookup (joinSlash (segmentsOf (h.text key))) = some value) ∧
    ∀ k k' : Text, s.datastoreTopic k ≠ s.datastoreTopic k' ↔ segmentsOf k ≠ segmentsOf k' := by
  constructor
  · intro h sent key value
    rw [readsBack_iff h sent key value hsegments hcache, canonical_iff, List.lookup_cons]
    by_cases hcanon : joinSlash (segmentsOf (h.text key)) = h.text key
    · -- the GET finds the new entry
      rw [beq_iff_eq.2 hcanon]
      constructor
      · exact fun hfound => .inl ⟨hfound.1, hcanon⟩
      · rintro (hkey | hkey)
        exacts [⟨hkey.1, rfl⟩, ⟨hkey.1, rfl⟩]
    · -- the GET passes the new entry by
      rw [beq_eq_false_iff_ne.2 hcanon]
      simp [hcanon]
  · intro k k'
    rw [not_iff_not]
    constructor
    · intro htopic
      have hsegs := congrArg segmentsOf htopic
      rw [datastoreTopic, datastoreTopic, segmentsOf_topicPath, segmentsOf_topicPath, List.append_cancel_left_eq,
        List.flatMap_cons, List.flatMap_cons, flatMap_segmentsOf, flatMap_segmentsOf] at hsegs
      simpa using hsegs
    · intro hsegs
      rw [datastoreTopic, datastoreTopic, hsegs]

/-- A connected service with an empty datastore. -/
def withDatastore : Service := { Service.sample [] with datastoreCache := some [] }

theorem datastore_keys_agree_sample :
    withDatastore.ReadsBack .sample true [97, 47, 98] [1] ∧
      withDatastore.datastoreTopic "a".toList ≠ withDatastore.datastoreTopic "a/b".toList := by
  have hsegments : segmentsOf withDatastore.cloudTopicPrefix ≠ [] := by decide
  have h := datastore_keys_agree_iff hsegments rfl
  exact ⟨(h.1 .sample true [97, 47, 98] [1]).2 (.inl (by decide)), (h.2 _ _).2 (by decide)⟩

/-- The key `/a`: its value is not read back, and its topic is the one of the key `a`. -/
theorem leading_slash_not_read_back :
    ¬ withDatastore.ReadsBack .sample true [47, 97] [1] ∧
      withDatastore.datastoreTopic "/a".toList = withDatastore.datastoreTopic "a".toList := by
  constructor
  · have hsegments : segmentsOf withDatastore.cloudTopicPrefix ≠ [] := by decide
    rw [readsBack_iff .sample true _ _ hsegments rfl]
    decide
  · decide

end Service
end Daemon
end McuBridge
