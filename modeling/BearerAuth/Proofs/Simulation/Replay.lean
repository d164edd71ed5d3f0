import BearerAuth.Simulation.Source
import Mathlib.Data.List.Induction

/-!
# How a script is replayed

A script may be continued while it is in use. Its replies are handed out from the first one on,
one after the other, and the queue never runs empty. Whether a reply is handed out once more is
decided when it is handed out: if it is the last one in the queue then, it stays there, and the next
fetch gets it again even if others have been queued behind it in the meantime.
-/
namespace BearerAuth

/-- What happens to a script in use. -/
inductive ScriptEvent
  | push (reply : Reply)
  | fetch

namespace ScriptEvent

def isPush : ScriptEvent → Bool
  | push _ => true
  | fetch => false

/-- The replies that are queued, in their order. -/
def pushes (events : List ScriptEvent) : List Reply :=
  events.filterMap fun
    | push reply => some reply
    | fetch => none

@[simp] theorem pushes_append (before after : List ScriptEvent) :
    pushes (before ++ after) = pushes before ++ pushes after :=
  List.filterMap_append

end ScriptEvent

namespace Script

open ScriptEvent

/-- A fetch that takes no time: the reply that it gets, and what it leaves of the script. -/
def fetch (script : Script) : Reply × Script :=
  let ((reply, _), later) := source.take (source.start script)
  (reply, later)

def step (script : Script) : ScriptEvent → Script
  | .push reply => script.push reply
  | .fetch => script.fetch.2

def after (script : Script) (events : List ScriptEvent) : Script := events.foldl step script

/-- All replies that a script which begins with a key set has ever had. -/
def queued (keys : KeySet) (events : List ScriptEvent) : List Reply := .ok keys :: pushes events

/-- Which of them the next fetch is due to get: as many have been used up. -/
def position (keys : KeySet) (events : List ScriptEvent) : Nat :=
  (queued keys events).length - ((constant keys).after events).replies.length

@[simp] theorem after_append (script : Script) (before after : List ScriptEvent) :
    script.after (before ++ after) = (script.after before).after after :=
  List.foldl_append

theorem fetch_eq {script : Script} {reply : Reply} {rest : List Reply}
    (h : script.replies = reply :: rest) :
    script.fetch.1 = reply ∧
      script.fetch.2.replies = if rest = [] then [reply] else rest := by
  cases rest <;> simp [fetch, source, next, h]

/-- What is left of a script is what has been queued from some reply on, and it is never nothing. -/
structure LeftFrom (script : Script) (replies : List Reply) (n : Nat) : Prop where
  lt : n < replies.length
  left : script.replies = replies.drop n

namespace LeftFrom

variable {script : Script} {replies : List Reply} {n : Nat}

theorem push (h : script.LeftFrom replies n) (reply : Reply) :
    (script.push reply).LeftFrom (replies ++ [reply]) n where
  lt := by
    have := h.lt
    simp only [List.length_append]
    omega
  left := by rw [Script.push, h.left, List.drop_append_of_le_length (Nat.le_of_lt h.lt)]

theorem fetch (h : script.LeftFrom replies n) :
    replies[n]? = some script.fetch.1 ∧
      script.fetch.2.LeftFrom replies (if replies.length = n + 1 then n else n + 1) := by
  have hlt := h.lt
  have hcons : script.replies = replies[n] :: replies.drop (n + 1) := by
    rw [h.left, List.drop_eq_getElem_cons hlt]
  obtain ⟨hreply, hrest⟩ := fetch_eq hcons
  refine ⟨by rw [hreply, List.getElem?_eq_getElem hlt], ?_⟩
  simp only [List.drop_eq_nil_iff] at hrest
  split
  · next hlast =>
    have hend : replies.length ≤ n + 1 := Nat.le_of_eq hlast
    rw [if_pos hend] at hrest
    exact ⟨hlt, by rw [hrest, List.drop_eq_getElem_cons hlt, List.drop_eq_nil_of_le hend]⟩
  · next hmore =>
    rw [if_neg (by omega)] at hrest
    exact ⟨by omega, hrest⟩

/-- It is known from the lengths alone from which reply on. -/
theorem eq_sub_length (h : script.LeftFrom replies n) :
    n = replies.length - script.replies.length := by
  have := h.lt
  rw [h.left, List.length_drop]
  omega

end LeftFrom

variable (keys : KeySet)

theorem queued_append (before after : List ScriptEvent) :
    queued keys (before ++ after) = queued keys before ++ pushes after := by
  rw [queued, queued, pushes_append, List.cons_append]

theorem exists_leftFrom (events : List ScriptEvent) :
    ∃ n, ((constant keys).after events).LeftFrom (queued keys events) n := by
  induction events using List.reverseRecOn with
  | nil => exact ⟨0, Nat.zero_lt_one, rfl⟩
  | append_singleton events event ih =>
    obtain ⟨n, hn⟩ := ih
    rw [after_append, queued_append]
    cases event with
    | push reply => exact ⟨n, hn.push reply⟩
    | fetch =>
      rw [show pushes [.fetch] = [] from rfl, List.append_nil]
      exact ⟨_, hn.fetch.2⟩

/-- What is left after a run begins with the reply that is due. -/
theorem leftFrom_position (events : List ScriptEvent) :
    ((constant keys).after events).LeftFrom (queued keys events) (position keys events) := by
  obtain ⟨n, hn⟩ := exists_leftFrom keys events
  rw [position, ← hn.eq_sub_length]
  exact hn

theorem position_fetch (events : List ScriptEvent) :
    position keys (events ++ [.fetch]) =
      if (queued keys events).length = position keys events + 1 then position keys events
      else position keys events + 1 := by
  have hfetch := (leftFrom_position keys events).fetch.2.eq_sub_length
  rw [hfetch, position, after_append, queued_append]
  simp [pushes]
  rfl

theorem position_push (events : List ScriptEvent) (reply : Reply) :
    position keys (events ++ [.push reply]) = position keys events := by
  have hpush := ((leftFrom_position keys events).push reply).eq_sub_length
  rw [hpush, position, after_append, queued_append]
  rfl

theorem position_pushes (events : List ScriptEvent) {between : List ScriptEvent}
    (h : ∀ event ∈ between, event.isPush = true) :
    position keys (events ++ between) = position keys events := by
  induction between using List.reverseRecOn with
  | nil => rw [List.append_nil]
  | append_singleton between event ih =>
    have hearly := ih fun early hmem => h early (List.mem_append_left _ hmem)
    cases event with
    | push reply => rw [← List.append_assoc, position_push, hearly]
    | fetch => cases h .fetch (by simp)

theorem position_le_append (before after : List ScriptEvent) :
    position keys before ≤ position keys (before ++ after) := by
  induction after using List.reverseRecOn with
  | nil => exact Nat.le_of_eq (by rw [List.append_nil])
  | append_singleton after event ih =>
    rw [← List.append_assoc]
    refine Nat.le_trans ih ?_
    cases event with
    | push reply => exact Nat.le_of_eq (position_push keys _ reply).symm
    | fetch =>
      rw [position_fetch]
      split <;> omega

/-- How a script that begins with a key set is replayed. -/
structure Replays (keys : KeySet) : Prop where
  /-- There is always a reply to hand out. -/
  stocked : ∀ events, ((constant keys).after events).replies ≠ []
  /-- A fetch gets the reply that is due, of all that have been queued. -/
  handed : ∀ events,
    (queued keys events)[position keys events]? = some ((constant keys).after events).fetch.1
  /-- The first fetch gets the first reply. -/
  first : ∀ between, (∀ event ∈ between, event.isPush = true) → position keys between = 0
  /-- The next fetch gets the reply after it, or the same one if that was the last one when it was
  handed out. -/
  next : ∀ events between, (∀ event ∈ between, event.isPush = true) →
    position keys (events ++ .fetch :: between) =
      if (queued keys events).length = position keys events + 1 then position keys events
      else position keys events + 1
  /-- A reply with others behind it is handed out for the last time. -/
  spent : ∀ events later, position keys events + 1 < (queued keys events).length →
    position keys events < position keys (events ++ .fetch :: later)

/-- Replies are handed out in their order and none is left out; each is repeated that was once the
last one when it was handed out. -/
theorem replays : Replays keys where
  stocked events hempty := by
    have hleft := leftFrom_position keys events
    rw [hleft.left, List.drop_eq_nil_iff] at hempty
    exact Nat.not_le_of_lt hleft.lt hempty
  handed events := (leftFrom_position keys events).fetch.1
  first between h := position_pushes keys [] h
  next events between h := by
    rw [List.append_cons, position_pushes keys _ h, position_fetch]
  spent events later h := by
    have hfetch := position_fetch keys events
    rw [if_neg (by omega)] at hfetch
    have hlater := position_le_append keys (events ++ [.fetch]) later
    rw [List.append_cons]
    omega

/-- A reply that has been handed out is handed out again although another one has been queued. -/
theorem handed_out_twice :
    let second : Reply := .error (.status 503)
    (constant ⟨[]⟩).fetch.1 = .ok ⟨[]⟩ ∧
      ((constant ⟨[]⟩).after [.fetch, .push second]).fetch.1 = .ok ⟨[]⟩ ∧
        ((constant ⟨[]⟩).after [.fetch, .push second, .fetch]).fetch.1 = second := by
  decide

end Script
end BearerAuth
