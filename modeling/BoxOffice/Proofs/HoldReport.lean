import BoxOffice.Office.Opening
import BoxOffice.Proofs.OfficeTraffic
import BoxOffice.Proofs.Visits

set_option autoImplicit false

namespace BoxOffice

open Engine (Order Stage Gain Outcome Advance)

namespace Engine

variable {length : Span} {start s s' : Store} {now : Instant} {order : Order}
variable {stage stage' : Stage} {r user : Int}

theorem sound_expire (hs : Sound length s order stage) : Sound length s order stage.expire := by
  cases stage with
  | opening => exact .finished
  | fetching | withdrawing => exact .givingUp
  | _ => exact hs

inductive Holding (start : Store) (length : Span) (r user : Int) (now : Instant) :
    Store → Stage → Prop
  | pending {s : Store} {stage : Stage} (hs : s.seats = start.seats)
      (hb : s.bookings = start.bookings)
      (hsound : Sound length s (.hold r user) stage) (hr : stage.Reads now)
      (hn : ∀ outcome, stage = .finished outcome → ∃ e, outcome = .refused e) :
      Holding start length r user now s stage
  | locked {s : Store} {seat : Seat} (hg : start.seats.get? r = some seat)
      (hs : s.seats = start.seats.put { seat with state := .locked now user })
      (hb : s.bookings = start.bookings) :
      Holding start length r user now s (.finished ((Gain.hold now).outcome length))

theorem Holding.next (h : Holding start length r user now s stage)
    (ha : Advance length s now (.hold r user) stage s' stage') :
    Holding start length r user now s' stage' := by
  cases h with
  | locked hg hs hb =>
    cases ha with
    | finished => exact .locked hg hs hb
  | pending hs hb hsound hr hn =>
    have hsound' := ha.sound hsound
    have hr' := ha.reads hr
    have quiet : s'.seats = s.seats → s'.bookings = s.bookings →
        (∀ outcome, stage' = .finished outcome → ∃ e, outcome = .refused e) →
        Holding start length r user now s' stage' :=
      fun hseats hbookings hn' => .pending (hseats.trans hs) (hbookings.trans hb) hsound' hr' hn'
    have hgo := ha
    cases ha with
    | holdCommitted hf hg had hst =>
      obtain rfl := hr
      refine .locked (hs ▸ hg.get?) ?_ ?_
      · rw [Store.seats_committed hst, hs]
      · rw [Store.bookings_committed hst, List.append_nil, hb]
    | found | unknown =>
      cases hsound with
      | lookUp hk => cases hk
    | foundAgain | unknownAgain =>
      cases hsound with
      | lookAgain hk => cases hk
    | granted | waits =>
      obtain ⟨hseats, hbookings⟩ := hgo.data fun _ _ => nofun
      exact quiet hseats hbookings fun _ h => nomatch h
    | gaveUp => exact quiet rfl rfl fun outcome h => ⟨_, (Stage.finished.inj h).symm⟩
    | withdrawn | commitFailed | commitTaken | undone =>
      exact quiet rfl rfl fun outcome h => ⟨_, Traffic.refuse_eq_finished h⟩
    | finished => exact quiet rfl rfl hn
    | _ => exact quiet rfl rfl fun _ h => nomatch h

theorem Holding.expire (h : Holding start length r user now s stage) :
    Holding start length r user now s stage.expire := by
  cases h with
  | locked hg hs hb => exact .locked hg hs hb
  | pending hs hb hsound hr hn =>
    refine .pending hs hb (sound_expire hsound) (reads_expire hr) fun outcome h => ?_
    cases stage with
    | opening => exact ⟨_, (Stage.finished.inj h).symm⟩
    | fetching | withdrawing => cases h
    | _ => exact hn outcome h

theorem Holding.first (s : Store) : Holding s length r user now s (Order.hold r user).first :=
  .pending rfl rfl .opening trivial fun _ h => nomatch h

end Engine

namespace Office

open Engine (Holding)

variable {o o' : Office} {order : Order} {stage : Stage} {start : Store} {r user : Int}

theorem holding_perform {length : Span} {request : Engine.Request} {next : request.Reply → Stage}
    {reply : Option request.Reply} (h : Holding start length r user o.clock o.store stage)
    (hk : o.keeping = .memory) (hm : (Order.hold r user).move length stage = .ask request next)
    (hp : o.perform request = (o', reply)) :
    Holding start length r user o.clock o'.store ((reply.map next).getD stage) ∧
      o' = { o with store := o'.store } := by
  rw [perform_of_memory hk] at hp
  obtain ⟨rfl, rfl⟩ := Prod.mk.inj hp
  refine ⟨?_, rfl⟩
  have hadvance : (Order.hold r user).advance length o.store o.clock stage =
      ((o.store.perform o.clock request).1,
        ((o.store.perform o.clock request).2.map next).getD stage) := by
    simp only [Order.advance, hm]
    cases o.store.perform o.clock request with
    | mk s reply => cases reply <;> rfl
  cases h with
  | locked => cases hm
  | pending hs hb hsound hr hn =>
    have ha : Advance length o.store o.clock (.hold r user) stage _ _ :=
      Engine.advance_of_sound hsound
    rw [hadvance] at ha
    exact (Holding.pending hs hb hsound hr hn).next ha

theorem holding_serve (deadline : Nat) :
    o.keeping = .memory → Holding start o.rules.holdLength r user o.clock o.store stage →
    let served := o.serve deadline (.hold r user) stage
    Holding start o.rules.holdLength r user o.clock served.1.store (reached served.2) ∧
      served.1 = { o with store := served.1.store } ∧
      ∀ left, served.2 = .error left → ∀ outcome, left ≠ .finished outcome := by
  generalize horder : Order.hold r user = order
  fun_induction Office.serve o deadline order stage with
  | case1 o stage outcome hm =>
    intro hk h
    obtain rfl := eq_finished_of_answer hm
    refine ⟨h, rfl, ?_⟩
    rintro left hl
    cases hl
  | case2 o stage request next hm o' reply hp ih =>
    subst horder
    intro hk h
    obtain ⟨h', ho⟩ := holding_perform h hk hm hp
    rw [ho] at ih ⊢
    exact ih hk h'
  | case3 o stage request next hm o' hp hw ih =>
    subst horder
    intro hk h
    obtain ⟨h', ho⟩ := holding_perform h hk hm hp
    rw [ho] at ih ⊢
    exact ih hk h'.expire
  | case4 o stage request next hm o' hp hw =>
    subst horder
    intro hk h
    obtain ⟨h', ho⟩ := holding_perform h hk hm hp
    refine ⟨h', ho, ?_⟩
    rintro left hl outcome rfl
    cases hl
    cases hm

theorem store_withdraw (hk : o.keeping = .memory) (t : Task) :
    (o.withdraw t).store = o.store.deserted t.stage := by
  unfold withdraw Store.deserted
  cases t.stage.tx? with
  | none => rfl
  | some tx =>
    simp only
    rw [perform_of_memory hk]
    rfl

/-- What a call to hold a seat comes to. -/
inductive Reported (o : Office) (r user : Int) (called : Office × Answer) : Prop
  | refused {e : BookingError} (ha : called.2 = .outcome (.refused e))
      (hs : called.1.store.seats = o.store.seats) (hb : called.1.store.bookings = o.store.bookings)
  | locked {seat : Seat} (hg : o.store.seats.get? r = some seat)
      (hs : called.1.store.seats =
        o.store.seats.put { seat with state := .locked o.clock user })
      (hb : called.1.store.bookings = o.store.bookings)
      (ha : called.2 = .outcome (match Hold.expiresAt? o.clock o.rules.holdLength with
        | some e => .done (.held e)
        | none => .beyondCalendar))

theorem reported_of_holding {o' : Office} {outcome : Outcome}
    (h : Holding o.store o.rules.holdLength r user o.clock o'.store (.finished outcome)) :
    Reported o r user (o', .outcome outcome) := by
  cases h with
  | pending hs hb hsound hr hn =>
    obtain ⟨e, rfl⟩ := hn outcome rfl
    exact .refused rfl hs hb
  | locked hg hs hb => exact .locked hg hs hb rfl

inductive Polled (start : Store) (r user : Int) (o : Office) : Office × Progress → Prop
  | answered {o' : Office} {outcome : Outcome}
      (h : Holding start o.rules.holdLength r user o.clock o'.store (.finished outcome)) :
      Polled start r user o (o', .answered (.outcome outcome))
  | waiting {o' : Office} {left : Stage} {deadline : Nat}
      (h : Holding start o.rules.holdLength r user o.clock o'.store left)
      (ho : o' = { o with store := o'.store }) (hn : ∀ outcome, left ≠ .finished outcome) :
      Polled start r user o (o', .waiting ⟨.hold r user, left, deadline, none⟩)

theorem polled_of_holding (hk : o.keeping = .memory)
    (h : Holding start o.rules.holdLength r user o.clock o.store stage) (deadline : Nat) :
    Polled start r user o (o.poll ⟨.hold r user, stage, deadline, none⟩) := by
  obtain ⟨h', ho, hn⟩ := holding_serve deadline hk h
  unfold Office.poll
  simp only [Option.any_none, Bool.false_eq_true, if_false]
  generalize o.serve deadline (.hold r user) stage = served at h' ho hn
  obtain ⟨o', left | outcome⟩ := served
  · exact .waiting h' ho (hn _ rfl)
  · exact .answered h'

/-- A call to hold a seat is refused, and committed data are as they were; or the seat is locked at
the time of the call, and the caller is told when the hold ends, if a calendar can show it. -/
theorem hold_is_reported (o : Office) (hk : o.keeping = .memory) (r user : Int) :
    Reported o r user (o.call (.order (.hold r user))) := by
  have h : Polled o.store r user o (o.poll ⟨.hold r user, (Order.hold r user).first,
      o.elapsed + o.rules.lockWait, none⟩) :=
    polled_of_holding hk (Holding.first o.store) _
  unfold Office.call
  rw [show o.start (.order (.hold r user)) =
    o.poll ⟨.hold r user, (Order.hold r user).first, o.elapsed + o.rules.lockWait, none⟩ from rfl]
  generalize o.poll ⟨.hold r user, (Order.hold r user).first, o.elapsed + o.rules.lockWait,
    none⟩ = polled at h ⊢
  cases h with
  | answered h => exact reported_of_holding h
  | waiting h ho hn =>
    rename_i o' left deadline
    have hk' : o'.keeping = .memory := by rw [ho]; exact hk
    have hrules : o'.rules = o.rules := by rw [ho]
    have hclock : o'.clock = o.clock := by rw [ho]
    rw [← hrules, ← hclock] at h
    have h' := polled_of_holding (o := { o' with elapsed := deadline }) hk' h deadline
    simp only [Task.latest, Option.map_none, Option.getD_none]
    generalize ({ o' with elapsed := deadline } : Office).poll
      ⟨.hold r user, left, deadline, none⟩ = polled at h' ⊢
    cases h' with
    | answered h =>
      simp only [hrules, hclock] at h
      exact reported_of_holding h
    | waiting h ho' hn =>
      rename_i o'' left deadline'
      have hk'' : o''.keeping = .memory := by rw [ho']; exact hk'
      -- Whoever still waits at the deadline leaves, and has changed nothing.
      cases h with
      | locked => exact absurd rfl (hn _)
      | pending hs hb =>
        refine .refused rfl ?_ ?_
        · rw [store_withdraw hk'', Traffic.seats_deserted, hs]
        · rw [store_withdraw hk'', Traffic.bookings_deserted, hb]

def Plan.oneSeat (holdSeconds : Int) : Plan where
  booking := ⟨holdSeconds, 5000⟩
  tokens := ⟨"secret", 15⟩
  requestLimitSeconds := 30
  lockTimeoutMillis := 5000
  keeping := .memory
  seats := [⟨1, 5, "A1", .available⟩]
  clock := .epoch
  wallClock := .epoch

theorem hold_is_reported_tenMinutes :
    ∃ o, (Plan.oneSeat 600).office? ⟨[], [], []⟩ ⟨none, false, false, 3600, []⟩ = some o ∧
      o.keeping = .memory ∧ Reported o 1 7 (o.call (.order (.hold 1 7))) :=
  ⟨_, rfl, rfl, hold_is_reported _ rfl 1 7⟩

theorem serve_of_answer {outcome : Outcome} {deadline : Nat}
    (hm : order.move o.rules.holdLength stage = .answer outcome) :
    o.serve deadline order stage = (o, .ok outcome) := by
  unfold Office.serve
  split
  · rename_i h
    cases hm.symm.trans h
    rfl
  · rename_i h
    cases hm.symm.trans h

theorem serve_of_reply {deadline : Nat} {request : Engine.Request} {next : request.Reply → Stage}
    {reply : request.Reply} (hm : order.move o.rules.holdLength stage = .ask request next)
    (hp : o.perform request = (o', some reply)) :
    o.serve deadline order stage = o'.serve deadline order (next reply) := by
  rw [Office.serve]
  split
  · rename_i h
    cases hm.symm.trans h
  · rename_i h
    cases hm.symm.trans h
    rw [hp]

theorem call_of_serve {outcome : Outcome}
    (h : o.serve (o.elapsed + o.rules.lockWait) order order.first = (o', .ok outcome)) :
    o.call (.order order) = (o', .outcome outcome) := by
  unfold Office.call Office.start Office.order Office.poll
  simp only [Option.any_none, Bool.false_eq_true, if_false]
  rw [h]
  rfl

/-- The longest hold of whole seconds is a span, but it ends beyond every calendar. -/
theorem longest_hold_not_reported :
    ∃ o, (Plan.oneSeat 9223372036854775).office? ⟨[], [], []⟩ ⟨none, false, false, 3600, []⟩ =
        some o ∧
      o.store.seats.get? 1 = some ⟨1, 5, "A1", .available⟩ ∧
      (o.call (.order (.hold 1 7))).2 = .outcome .beyondCalendar ∧
      (o.call (.order (.hold 1 7))).1.store.seats.get? 1 =
        some ⟨1, 5, "A1", .locked .epoch 7⟩ := by
  let o : Office :=
    { rules := ⟨⟨9223372036854775000000000, by decide, by decide⟩, 5000,
        ⟨Octets.ofText "secret", ⟨900000000000, by decide, by decide⟩⟩, 30000⟩
      keeping := .memory
      clock := .epoch
      wallClock := .epoch
      elapsed := 0
      store := .ofSeats [⟨1, 5, "A1", .available⟩]
      database := .ofLine 5000 ⟨[], [], []⟩
      cache := ⟨none, false, false, 3600, []⟩ }
  let held : Store := { Store.ofSeats [⟨1, 5, "A1", .locked .epoch 7⟩] with nextTx := 1 }
  have hserve : o.serve 5000 (.hold 1 7) .opening =
      ({ o with store := held }, .ok .beyondCalendar) := by
    rw [serve_of_reply rfl rfl, serve_of_reply rfl rfl, serve_of_reply rfl rfl,
      serve_of_reply rfl rfl, serve_of_reply rfl rfl]
    exact serve_of_answer rfl
  refine ⟨o, rfl, rfl, ?_⟩
  rw [call_of_serve hserve]
  exact ⟨rfl, rfl⟩

end Office

end BoxOffice
