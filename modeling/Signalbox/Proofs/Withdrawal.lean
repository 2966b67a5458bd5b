import Mathlib.Logic.Relation
import Signalbox.Proofs.Granting
import Signalbox.Session.Drives

/-!
What can be done without being asked for a route. Drives, releases and the end of a session
only withdraw: they set signals to stop, release routes and record what became of drives and
trains. Whatever each of these keeps, everything made of them keeps.
-/
namespace Signalbox

namespace Event

def isDrive : Event → Bool
  | .drive .. => true
  | _ => false

def isBookkeeping : Event → Bool
  | .grab .. | .drive .. => true
  | _ => false

theorem isBookkeeping_of_isDrive {e : Event} (h : e.isDrive = true) : e.isBookkeeping = true := by
  cases e with
  | drive => rfl
  | _ => cases h

end Event

namespace Interlocking

/-- The single steps of a withdrawal. Some events are recorded for themselves. -/
inductive Withdrawal (reg : Registry) (noted : Event → Bool) :
    Interlocking → Interlocking → Prop
  | stop (il : Interlocking) (s : SignalId) :
    Withdrawal reg noted il (il.commandSignal s .stop).1
  | release (il : Interlocking) (i : RouteIndex) : Withdrawal reg noted il (il.release reg i).1
  | note (il : Interlocking) (e : Event) (h : noted e = true) :
    Withdrawal reg noted il (il.record e)

abbrev Withdraws (reg : Registry) (noted : Event → Bool) :
    Interlocking → Interlocking → Prop :=
  Relation.ReflTransGen (Withdrawal reg noted)

variable {reg : Registry} {noted noted' : Event → Bool} {il il' : Interlocking}

theorem Withdraws.mono (hnoted : ∀ e, noted e = true → noted' e = true)
    (h : Withdraws reg noted il il') : Withdraws reg noted' il il' := by
  refine Relation.ReflTransGen.mono ?_ _ _ h
  intro a b hstep
  cases hstep with
  | stop s => exact .stop a s
  | release i => exact .release a i
  | note e h => exact .note a e (hnoted e h)

theorem Withdraws.keeps {P : Interlocking → Prop}
    (step : ∀ a b, Withdrawal reg noted a b → P a → P b) (h : Withdraws reg noted il il')
    (hil : P il) : P il' := by
  induction h with
  | refl => exact hil
  | tail _ hstep ih => exact step _ _ hstep ih

theorem Withdraws.holder_of_held (h : Withdraws reg noted il il') {i : RouteIndex} {train : TrainId}
    (held : il'.holder i = some train) : il.holder i = some train := by
  induction h with
  | refl => exact held
  | tail _ hstep ih =>
    apply ih
    cases hstep with
    | stop s => simpa using held
    | note e _ => exact held
    | release j =>
      rw [holder_release] at held
      split at held
      · cases held
      · exact held

theorem releaseIfHeldBy_withdraws (il : Interlocking) (reg : Registry) (id : RouteId)
    (train : TrainId) : Withdraws reg noted il (il.releaseIfHeldBy reg id train).1 := by
  unfold releaseIfHeldBy
  cases indexOf reg id with
  | error e => exact .refl
  | ok i =>
    dsimp only
    split
    · exact .single (.release il i)
    · exact .refl

theorem releaseRoute_withdraws (il : Interlocking) (reg : Registry) (id : RouteId) :
    Withdraws reg noted il (il.releaseRoute reg id).1 := by
  unfold releaseRoute
  cases indexOf reg id with
  | error e => exact .refl
  | ok i => exact .single (.release il i)

theorem releaseEach_withdraws (il : Interlocking) (reg : Registry) (places : List RouteIndex) :
    Withdraws reg noted il (il.releaseEach reg places).1 := by
  induction places generalizing il with
  | nil => exact .refl
  | cons i rest ih => exact .head (.release il i) (ih _)

end Interlocking

namespace Drive

open Interlocking

variable (reg : Registry) (d : Drive) (il : Interlocking)

theorem recordState_withdraws (state : DriveState) :
    Withdraws reg Event.isDrive il (d.recordState il state) :=
  .single (.note il _ rfl)

theorem finish_withdraws (o : Outcome) : Withdraws reg Event.isDrive il (d.finish il o).2 :=
  recordState_withdraws reg d il o.state

theorem begin_withdraws : Withdraws reg Event.isDrive il (d.begin reg il).2 := by
  have hstart := recordState_withdraws reg d il .initializing
  unfold begin
  cases d.phase with
  | initializing =>
    dsimp only
    cases outset reg d.route with
    | error reason => exact hstart.trans (finish_withdraws reg d _ _)
    | ok p => exact hstart.trans (recordState_withdraws reg d _ .progressing)
  | progressing | arriving | ended => exact .refl

theorem stopSignals_withdraws {noted : Event → Bool} (p : Progress) (signals : List SignalId) :
    Withdraws reg noted il (stopSignals il p signals).1 := by
  induction signals generalizing il p with
  | nil => exact .refl
  | cons s rest ih =>
    have hstop : Withdrawal reg noted il (il.commandSignal s .stop).1 := .stop il s
    unfold stopSignals
    cases hs : il.commandSignal s .stop with
    | mk next fault =>
      rw [hs] at hstop
      cases fault with
      | none => exact .head hstop (ih _ _)
      | some f =>
        dsimp only
        split
        · exact .head hstop (ih _ _)
        · exact .head hstop (ih _ _)

theorem releaseRoute_withdraws (p : Progress) :
    Withdraws reg Event.isDrive il (releaseRoute reg d il p).2 := by
  have hrelease : Withdraws reg Event.isDrive il _ :=
    releaseIfHeldBy_withdraws il reg d.route d.train
  unfold releaseRoute
  cases hr : il.releaseIfHeldBy reg d.route d.train with
  | mk next result =>
    rw [hr] at hrelease
    cases result with
    | ok released => cases released <;> exact hrelease.trans (finish_withdraws reg d next _)
    | error e => cases e <;> exact hrelease.trans (finish_withdraws reg d next _)

theorem arrive_withdraws (p : Progress) :
    Withdraws reg Event.isDrive il (arrive reg d il p).2 := by
  unfold arrive
  cases (reg.find? d.route).bind Route.lastSegment? with
  | none => exact releaseRoute_withdraws reg d il p
  | some last =>
    dsimp only
    split
    · exact finish_withdraws reg d il _
    · split
      · exact releaseRoute_withdraws reg d il p
      · exact .refl

theorem proceed_withdraws (p : Progress) :
    Withdraws reg Event.isDrive il (proceed reg d il p).2 := by
  unfold proceed
  split
  · exact .refl
  · cases d.mode with
    | manual => exact finish_withdraws reg d il _
    | automatic => exact arrive_withdraws reg d il p

theorem watch_withdraws : Withdraws reg Event.isDrive il (d.watch reg il).2 := by
  unfold watch
  cases d.phase with
  | initializing | ended => exact .refl
  | arriving p =>
    dsimp only
    split
    · exact finish_withdraws reg d il _
    · exact arrive_withdraws reg d il p
  | progressing p =>
    dsimp only
    split
    · exact finish_withdraws reg d il _
    · split
      · exact finish_withdraws reg d il _
      · exact (stopSignals_withdraws reg il _ _).trans (proceed_withdraws reg d _ _)

theorem pass_withdraws : Withdraws reg Event.isDrive il (d.pass reg il).2 :=
  (begin_withdraws reg d il).trans (watch_withdraws reg _ _)

end Drive

end Signalbox
