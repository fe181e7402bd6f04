/-
  WatchTogether.Realtime.Handler

  `Handler.ServeHTTP` (`internal/realtime/handler.go`) around one room actor: any number
  of WebSocket connections, each in its own goroutine, the actor's bounded channel, and
  the actor that takes messages from it.

  A connection's goroutine moves through the stages of `ServeHTTP`; its write loop is a
  second goroutine that may fail, and cancel the context, at any moment after it was
  started.  Where a `select` of `Join` or `LeaveClient` has several ready cases, either
  may be taken.  Whatever else reaches the actor (commands, REST calls, timers, the
  checkpoint ticker) is a message posted by others.
-/

import Mathlib.Logic.Function.Basic
import WatchTogether.Rooms.Membership

namespace WatchTogether.Realtime

open Rooms

/-- Where the goroutine of a connection is in `ServeHTTP`. -/
inductive Stage where
  | idle
  /-- `GetFor` let the request through. -/
  | checked
  /-- The write loop runs; `Join` is about to send its request. -/
  | joining
  /-- The request is on the channel; `Join` waits for the reply. -/
  | waiting
  /-- The read loop. -/
  | reading
  /-- The read loop is over; `LeaveClient` is about to send its request. -/
  | leaving
  | returned
deriving DecidableEq, Repr

/-- A connection, as its `ServeHTTP` has it. -/
structure Conn where
  stage : Stage
  /-- `ctx.Done()`. -/
  cancelled : Bool
  /-- The buffered reply of the join request. -/
  reply : Option (Except ActorError Unit)

/-- The actor, its channel and the connections. -/
structure System (σ : Type) where
  actor : Actor σ
  queue : List Msg
  conns : Client → Conn

/-- What may happen in the system. -/
inductive Label where
  | check (c : Client)
  /-- The request is refused before `Join`. -/
  | reject (c : Client)
  | start (c : Client)
  /-- The write loop ends and cancels the context. -/
  | cancel (c : Client)
  | submit (c : Client)
  /-- A `select` takes the `ctx.Done()` or the `a.done` case. -/
  | giveUp (c : Client)
  | receive (c : Client)
  | hangUp (c : Client)
  | leave (c : Client)
  /-- Another goroutine sends to the actor. -/
  | post (m : Msg)
  /-- The actor takes a message. -/
  | turn (env : Env)

/-- The capacity of `a.commands`. -/
def capacity : Nat := 128

/-- The messages that only `ServeHTTP` sends. -/
def ofConnection : Msg → Bool
  | .join _ => true
  | .leave _ (some _) => true
  | _ => false

namespace System

variable {σ : Type}

/-- One connection changes. -/
def setConn (c : Client) (x : Conn) (s : System σ) : System σ :=
  { s with conns := Function.update s.conns c x }

/-- A connection goes on to another stage. -/
def move (c : Client) (stage : Stage) (s : System σ) : System σ :=
  s.setConn c { s.conns c with stage := stage }

/-- A message is sent to the actor. -/
def enqueue (m : Msg) (s : System σ) : System σ := { s with queue := s.queue ++ [m] }

/-- `x.reply <- r` of a join request. -/
def answer (m : Msg) (r : Reply) (s : System σ) : System σ :=
  match m, r with
  | .join c, .join r => s.setConn c { s.conns c with reply := some r }
  | _, _ => s

/-- The actor handles the next message. -/
def takeTurn (P : Persistence σ) (env : Env) (s : System σ) : System σ :=
  match s.queue with
  | [] => s
  | m :: rest =>
      if s.actor.stopped then s
      else
        let r := s.actor.process P env m
        System.answer m r.2 { s with actor := r.1, queue := rest }

/-- The stages in which the write loop may still cancel the context. -/
def running (x : Conn) : Bool :=
  match x.stage with
  | .joining | .waiting | .reading | .leaving => true
  | _ => false

/-- The stages whose `select` has a `ctx.Done()` case. -/
def joinSelect (x : Conn) : Bool :=
  match x.stage with
  | .joining | .waiting => true
  | _ => false

/-- One step.  `access` is the check of `GetFor`. -/
def step (P : Persistence σ) (access : σ → Identity → Bool) (s : System σ) : Label → System σ
  | .check c =>
      if (s.conns c).stage = .idle ∧ access s.actor.store c.identity then s.move c .checked
      else s
  | .reject c =>
      if (s.conns c).stage = .idle ∨ (s.conns c).stage = .checked then s.move c .returned else s
  | .start c => if (s.conns c).stage = .checked then s.move c .joining else s
  | .cancel c =>
      if running (s.conns c) then s.setConn c { s.conns c with cancelled := true } else s
  | .submit c =>
      if (s.conns c).stage = .joining ∧ s.queue.length < capacity then
        -- `Join` makes a fresh reply channel
        (s.enqueue (.join c)).setConn c { s.conns c with stage := .waiting, reply := none }
      else s
  | .giveUp c =>
      if (joinSelect (s.conns c) ∧ (s.conns c).cancelled) ∨
          (s.actor.stopped ∧ (joinSelect (s.conns c) ∨ (s.conns c).stage = .leaving)) then
        s.move c .returned
      else s
  | .receive c =>
      match (s.conns c).stage, (s.conns c).reply with
      | .waiting, some (.ok _) => s.move c .reading
      | .waiting, some (.error _) => s.move c .returned
      | _, _ => s
  | .hangUp c => if (s.conns c).stage = .reading then s.move c .leaving else s
  | .leave c =>
      if (s.conns c).stage = .leaving ∧ s.queue.length < capacity then
        (s.enqueue (.leave c.id (some c))).move c .returned
      else s
  | .post m => if ofConnection m = false ∧ s.queue.length < capacity then s.enqueue m else s
  | .turn env => s.takeTurn P env

/-- Nobody has connected yet. -/
def start (a : Actor σ) : System σ := ⟨a, [], fun _ => ⟨.idle, false, none⟩⟩

/-! ## The pieces of a step -/

@[simp] theorem enqueue_actor (m : Msg) (s : System σ) : (s.enqueue m).actor = s.actor := rfl

@[simp] theorem enqueue_queue (m : Msg) (s : System σ) :
    (s.enqueue m).queue = s.queue ++ [m] := rfl

@[simp] theorem enqueue_conns (m : Msg) (s : System σ) : (s.enqueue m).conns = s.conns := rfl

@[simp] theorem setConn_actor (c : Client) (x : Conn) (s : System σ) :
    (s.setConn c x).actor = s.actor := rfl

@[simp] theorem setConn_queue (c : Client) (x : Conn) (s : System σ) :
    (s.setConn c x).queue = s.queue := rfl

@[simp] theorem setConn_conns_self (c : Client) (x : Conn) (s : System σ) :
    (s.setConn c x).conns c = x := Function.update_self ..

theorem setConn_conns_ne {c c' : Client} (h : c' ≠ c) (x : Conn) (s : System σ) :
    (s.setConn c x).conns c' = s.conns c' := Function.update_of_ne h ..

@[simp] theorem answer_actor (m : Msg) (r : Reply) (s : System σ) :
    (s.answer m r).actor = s.actor := by
  unfold answer
  split <;> rfl

@[simp] theorem answer_queue (m : Msg) (r : Reply) (s : System σ) :
    (s.answer m r).queue = s.queue := by
  unfold answer
  split <;> rfl

/-- The reply goes to the connection that asked to join, and moves nobody. -/
theorem answer_conns (m : Msg) (r : Reply) (s : System σ) (c : Client) :
    (s.answer m r).conns c = s.conns c ∨
      ∃ r', m = .join c ∧ r = .join r' ∧
        (s.answer m r).conns c = { s.conns c with reply := some r' } := by
  unfold answer
  split
  · rename_i c' r'
    by_cases h : c = c'
    · subst h
      exact Or.inr ⟨r', rfl, rfl, setConn_conns_self ..⟩
    · exact Or.inl (setConn_conns_ne h ..)
  · exact Or.inl rfl

/-- Only a turn touches the actor or takes a message off the channel. -/
theorem step_frame (P : Persistence σ) (access : σ → Identity → Bool) (s : System σ) (l : Label)
    (hl : ∀ env, l ≠ .turn env) :
    (step P access s l).actor = s.actor ∧ ∀ m ∈ s.queue, m ∈ (step P access s l).queue := by
  cases l with
  | turn env => exact absurd rfl (hl env)
  | submit _ | leave _ | post _ =>
      unfold step
      dsimp only
      split
      · exact ⟨rfl, fun _ hm => List.mem_append_left _ hm⟩
      · exact ⟨rfl, fun m hm => hm⟩
  | _ =>
      unfold step
      dsimp only
      split <;> exact ⟨rfl, fun m hm => hm⟩

end System

end WatchTogether.Realtime
