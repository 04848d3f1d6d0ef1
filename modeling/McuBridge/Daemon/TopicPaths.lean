import McuBridge.Lib.Pieces
import McuBridge.Daemon.Topics

/-! # Topics written and read back (`protocol/topics.py`)

`topic_path` strips its parts and joins them, `parse_topic` cuts everywhere and drops what is empty. Both agree on the
pieces: those of the prefix, the topic's value, and those of the segments. -/

namespace McuBridge
namespace Daemon
open Pieces

theorem segmentsOf_eq (s : Text) : segmentsOf s = pieces (· == '/') s := by
  rw [segmentsOf, List.splitOn_eq_splitOnP]
  rfl

theorem segmentsOf_stripSlashes (s : Text) : segmentsOf (stripSlashes s) = segmentsOf s := by
  rw [segmentsOf_eq, segmentsOf_eq, stripSlashes, pieces_rdropWhile fun _ h => h, pieces_dropWhile fun _ h => h]

theorem segmentsOf_joinSlash (parts : List Text) : segmentsOf (joinSlash parts) = parts.flatMap segmentsOf := by
  have hslash : ('/' == '/') = true := rfl
  rw [segmentsOf_eq, joinSlash, @pieces_intercalate _ (· == '/') _ hslash]
  exact List.flatMap_congr fun s _ => (segmentsOf_eq s).symm

theorem flatMap_segmentsOf (s : Text) : (segmentsOf s).flatMap segmentsOf = segmentsOf s := by
  rw [List.flatMap_congr fun w _ => segmentsOf_eq w, segmentsOf_eq]
  exact flatMap_pieces _ fun w hw => mem_pieces hw

theorem Topic.segmentsOf_value (t : Topic) : segmentsOf t.value = [t.value] := by
  cases t <;> decide

theorem Topic.ofValue_eq_some_iff {s : Text} {t : Topic} : Topic.ofValue s = some t ↔ s = t.value := by
  constructor
  · intro h
    have hfind : all.find? (fun t => t.value == s) = some t := h
    have hvalue := List.find?_some hfind
    exact (eq_of_beq hvalue).symm
  · rintro rfl
    cases t <;> decide

/-- What `topic_path` writes has the pieces of its arguments, one after the other. -/
theorem segmentsOf_topicPath (topicPrefix : Text) (t : Topic) (segments : List Text) :
    segmentsOf (topicPath topicPrefix t segments) =
      segmentsOf topicPrefix ++ t.value :: segments.flatMap segmentsOf := by
  have hparts : ∀ parts : List Text,
      ((parts.map stripSlashes).filter fun s => !s.isEmpty).flatMap segmentsOf = parts.flatMap segmentsOf := by
    intro parts
    rw [List.flatMap_congr fun s _ => segmentsOf_eq s, flatMap_filter_pieces, List.flatMap_map]
    refine List.flatMap_congr fun s _ => ?_
    rw [← segmentsOf_eq, segmentsOf_stripSlashes]
  rw [topicPath, segmentsOf_joinSlash, hparts, List.flatMap_cons, List.flatMap_cons, t.segmentsOf_value]
  rfl

/-- `parse_topic` reads the prefix, a topic and the segments, and nothing else. -/
theorem parseTopic_eq_some_iff {topicPrefix s : Text} {route : TopicRoute} :
    parseTopic topicPrefix s = some route ↔
      s ≠ [] ∧ topicPrefix ≠ [] ∧
        segmentsOf s = segmentsOf topicPrefix ++ route.topic.value :: route.segments ∧
        route.raw = s ∧ route.topicPrefix = joinSlash (segmentsOf topicPrefix) := by
  rcases route with ⟨raw, pre, t, segments⟩
  unfold parseTopic
  by_cases hempty : s = [] ∨ topicPrefix = []
  · rw [if_pos (by rcases hempty with rfl | rfl <;> simp)]
    constructor
    · rintro ⟨⟩
    · rintro ⟨hs, hp, -⟩
      rcases hempty with rfl | rfl
      exacts [absurd rfl hs, absurd rfl hp]
  obtain ⟨hs, hp⟩ := not_or.1 hempty
  rw [if_neg (by simp [hs, hp])]
  dsimp only
  by_cases htake : (segmentsOf s).take (segmentsOf topicPrefix).length = segmentsOf topicPrefix
  · rw [if_neg (by simp [htake])]
    have hcut : segmentsOf s = segmentsOf topicPrefix ++ (segmentsOf s).drop (segmentsOf topicPrefix).length := by
      conv_lhs => rw [← List.take_append_drop (segmentsOf topicPrefix).length (segmentsOf s), htake]
    cases hdrop : (segmentsOf s).drop (segmentsOf topicPrefix).length with
    | nil =>
      rw [hdrop, List.append_nil] at hcut
      simp [hcut]
    | cons service rest =>
      rw [hdrop] at hcut
      rw [hcut]
      simp only [Option.map_eq_some_iff, Topic.ofValue_eq_some_iff, TopicRoute.mk.injEq, List.append_cancel_left_eq,
        List.cons.injEq]
      constructor
      · rintro ⟨t', rfl, rfl, rfl, rfl, rfl⟩
        exact ⟨hs, hp, ⟨rfl, rfl⟩, rfl, rfl⟩
      · rintro ⟨-, -, ⟨rfl, rfl⟩, rfl, rfl⟩
        exact ⟨t, rfl, rfl, rfl, rfl, rfl⟩
  · rw [if_pos (by simpa using htake)]
    constructor
    · rintro ⟨⟩
    · rintro ⟨-, -, h, -⟩
      exact absurd (by rw [h, List.take_left]) htake

theorem ne_nil_of_segmentsOf {s : Text} (h : segmentsOf s ≠ []) : s ≠ [] := by
  rintro rfl
  exact h rfl

/-- What `topic_path` writes below a prefix, `parse_topic` reads below it. -/
theorem parseTopic_topicPath {topicPrefix : Text} (hsegments : topicPrefix ≠ []) (t : Topic) (segments : List Text) :
    parseTopic topicPrefix (topicPath topicPrefix t segments) =
      some ⟨topicPath topicPrefix t segments, joinSlash (segmentsOf topicPrefix), t, segments.flatMap segmentsOf⟩ := by
  refine parseTopic_eq_some_iff.2 ⟨ne_nil_of_segmentsOf ?_, hsegments, segmentsOf_topicPath topicPrefix t segments, rfl, rfl⟩
  rw [segmentsOf_topicPath]
  simp

/-- The pieces of a route's segments are the segments. -/
theorem flatMap_segmentsOf_route {topicPrefix s : Text} {route : TopicRoute} (h : parseTopic topicPrefix s = some route) :
    route.segments.flatMap segmentsOf = route.segments := by
  obtain ⟨-, -, hsegs, -, -⟩ := parseTopic_eq_some_iff.1 h
  have hall : ∀ w ∈ route.segments, w ∈ segmentsOf s := fun w hw => by
    rw [hsegs]
    exact List.mem_append_right _ (List.mem_cons_of_mem _ hw)
  rw [List.flatMap_congr fun w _ => segmentsOf_eq w]
  refine flatMap_pieces _ fun w hw => ?_
  have hmem := hall w hw
  rw [segmentsOf_eq] at hmem
  exact mem_pieces hmem

/-- What is written below a prefix is read back with its topic and the pieces of its segments, and what is read below
a prefix can be written and read again. -/
theorem topic_round_trip :
    (∀ topicPrefix t segments, segmentsOf topicPrefix ≠ [] →
      ∃ route, parseTopic topicPrefix (topicPath topicPrefix t segments) = some route ∧
        route.topic = t ∧ route.segments = segments.flatMap segmentsOf) ∧
    ∀ topicPrefix s route, parseTopic topicPrefix s = some route →
      segmentsOf s = segmentsOf topicPrefix ++ route.topic.value :: route.segments ∧
      ∃ again, parseTopic topicPrefix (topicPath topicPrefix route.topic route.segments) = some again ∧
        again.topic = route.topic ∧ again.segments = route.segments := by
  constructor
  · intro topicPrefix t segments hsegments
    exact ⟨_, parseTopic_topicPath (ne_nil_of_segmentsOf hsegments) t segments, rfl, rfl⟩
  · intro topicPrefix s route h
    obtain ⟨-, hsegments, hsegs, -, -⟩ := parseTopic_eq_some_iff.1 h
    exact ⟨hsegs, _, parseTopic_topicPath hsegments route.topic route.segments, rfl, flatMap_segmentsOf_route h⟩

/-- A prefix with stray slashes and a segment that is a path. -/
theorem topic_round_trip_sample :
    (∃ route, parseTopic "/br//yun/".toList (topicPath "/br//yun/".toList .file ["read".toList, "/a//b/".toList]) = some route ∧
      route.topic = .file ∧ route.segments = ["read".toList, "a".toList, "b".toList]) ∧
    ∃ again, parseTopic "br".toList (topicPath "br".toList .digital ["13".toList]) = some again ∧
      again.topic = .digital ∧ again.segments = ["13".toList] := by
  constructor
  · obtain ⟨route, hroute, ht, hsegs⟩ := topic_round_trip.1 "/br//yun/".toList .file ["read".toList, "/a//b/".toList] (by decide)
    exact ⟨route, hroute, ht, hsegs.trans (by decide)⟩
  · exact (topic_round_trip.2 "br".toList "br/d/13".toList ⟨"br/d/13".toList, "br".toList, .digital, ["13".toList]⟩
      (by decide)).2

end Daemon
end McuBridge
