import Bibliography.Proofs.Log.File
import Mathlib.Control.Monad.Basic
/-!
# What a log remembers

A log is set up again and again, and not always with success. Whatever has
happened to it, once it has been set up it is as the last request has it
(`eq_settled_of_configure`): nothing of an earlier request is left, nor of one
that was given up halfway.
-/

namespace Bibliography.Log

open Access

/-- What happens to a log. -/
inductive Event where
  /-- It is set up, at the time of a stamp. -/
  | setUp (request : LogRequest) (stamp : String)
  /-- A message comes. -/
  | message (number : Int) (text : String)

/-- The log after an event; where it could not be set up, what that has left. -/
def Event.happen (log : Log) : Event → Access Log
  | setUp request stamp => do return (← configure request stamp log).2
  | message number text => do
    discard (log.record number text)
    return log

/-- The log after one event after the other. -/
def after (log : Log) : List Event → Access Log
  | [] => return log
  | event :: later => do (← event.happen log).after later

variable {request : LogRequest} {stamp : String} {log start : Log} {path : Option Path}

/-! ## A log that has been set up -/

/-- The log that a request sets up, with the threshold of its terminal. -/
def settled (request : LogRequest) (stamp : String) (least : Nat) : Log :=
  match fileAction? request with
  | none => ⟨least, true, [⟨.terminal, least⟩]⟩
  | some action =>
    ⟨min fileThreshold least, true,
      [⟨.terminal, least⟩, ⟨.file (fileOf request action stamp), fileThreshold⟩]⟩

/-- Where a log has been set up, nothing is left of the one that was there. -/
theorem Configured.eq_settled {t t' : Tree}
    (h : Configured request stamp start t ((.ok path, log), t')) :
    ∃ least, threshold request.level = .ok least ∧ log = settled request stamp least ∧
      path = (fileAction? request).map (fileOf request · stamp) := by
  cases h with
  | unfiled hthreshold haction =>
    exact ⟨_, hthreshold, by rw [settled, haction], by rw [haction]; rfl⟩
  | filed hthreshold haction hopen =>
    obtain rfl := openFile_eq_ok (congrArg Prod.fst hopen)
    exact ⟨_, hthreshold, by rw [settled, haction], by rw [haction]; rfl⟩

/-- Messages leave a log as it is, and go to its file. -/
theorem onTree_after_messages (log : Log) (messages : List (Int × String)) (t : Tree) :
    ((log.after (messages.map fun m => .message m.1 m.2)).onTree t).1 = log ∧
      t.Keeps log.IsFile ((log.after (messages.map fun m => .message m.1 m.2)).onTree t).2 := by
  induction messages generalizing t with
  | nil => exact ⟨rfl, .refl t⟩
  | cons m later ih =>
    have hhappen : (((Event.message m.1 m.2).happen log).onTree t).1 = log ∧
        t.Keeps log.IsFile (((Event.message m.1 m.2).happen log).onTree t).2 :=
      ⟨by rw [Event.happen, onTree_bind]; rfl,
        spares_bind (spares_bind (spares_record _ _) fun _ => spares_pure _)
          (fun _ => spares_pure _) t⟩
    rw [List.map_cons, after, onTree_bind, hhappen.1]
    exact ⟨(ih _).1, hhappen.2.trans (ih _).2⟩

/-- **Setting up a log forgets all that was before.** After any history, in which
the log may have been set up with or without success, a request that is granted
leaves the log that belongs to this request alone, and so do the messages that
come later: they go to no file but the one of this request. -/
theorem eq_settled_of_configure {history : List Event} {t : Tree}
    (h : ((start.after history >>= configure request stamp).onTree t).1 = (.ok path, log)) :
    ∃ least, threshold request.level = .ok least ∧ log = settled request stamp least ∧
      path = (fileAction? request).map (fileOf request · stamp) ∧
      ∀ (messages : List (Int × String)) (t : Tree),
        let later := (log.after (messages.map fun m => .message m.1 m.2)).onTree t
        later.1 = log ∧ t.Keeps (WouldFile request stamp) later.2 := by
  rw [onTree_bind] at h
  -- of the history only a log and a tree are left, which may be any
  generalize ((start.after history).onTree t).1 = before at h
  generalize ((start.after history).onTree t).2 = t₁ at h
  have hconfigured := configured_onTree request stamp before t₁
  generalize (configure request stamp before).onTree t₁ = outcome at h hconfigured
  obtain ⟨_, t₂⟩ := outcome
  cases h
  obtain ⟨least, hthreshold, hlog, hpath⟩ := hconfigured.eq_settled
  refine ⟨least, hthreshold, hlog, hpath, fun messages t => ?_⟩
  obtain ⟨hsame, hkeeps⟩ := onTree_after_messages log messages t
  exact ⟨hsame, hkeeps.mono fun _ => hconfigured.wouldFile⟩

/-- A log with a file, then a name that stands for no threshold, then a log
without a file. -/
theorem eq_settled_of_configure_layout :
    let history : List Event :=
      [.setUp { level := some "debug", action := some "search", toFile := true } "0102030405",
        .message 10 "one token", .setUp { level := some "basic_format" } "0102030406",
        .message 30 "no threshold"]
    let request : LogRequest := { level := some "error", action := some "search" }
    let log : Log := ⟨40, true, [⟨.terminal, 40⟩]⟩
    ((fresh.after history >>= configure request "0102030407").onTree .empty).1 = (.ok none, log) ∧
      ∃ least, threshold request.level = .ok least ∧ log = settled request "0102030407" least ∧
        none = (fileAction? request).map (fileOf request · "0102030407") ∧
        ∀ (messages : List (Int × String)) (t : Tree),
          let later := (log.after (messages.map fun m => .message m.1 m.2)).onTree t
          later.1 = log ∧ t.Keeps (WouldFile request "0102030407") later.2 := by
  intro history request log
  have hlast : ((fresh.after history >>= configure request "0102030407").onTree .empty).1 =
      (.ok none, log) := by decide +kernel
  exact ⟨hlast, eq_settled_of_configure hlast⟩

end Bibliography.Log
