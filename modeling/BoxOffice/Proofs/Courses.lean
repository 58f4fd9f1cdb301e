import BoxOffice.Proofs.HoldReport

set_option autoImplicit false

namespace BoxOffice

open Engine (TxId Request Order Stage Outcome)

namespace Engine

inductive Deed where
  | made (request : Request) (reply : request.Reply)
  | cut (request : Request)
  | judged (verdict : Except BookingError Unit)

inductive Ending where
  | answered (outcome : Outcome)
  | abandoned

/-- An order can be abandoned only while somebody else has to act. -/
def Request.isAwaited : Request → Bool
  | now | discard _ => false
  | _ => true

def Order.judgement (length : Span) (order : Order) : Stage → (request : Request) →
    request.Reply → List Deed
  | .deciding _ seat, .now, now => [.judged (order.admits length seat now)]
  | _, _, _ => []

def Stage.lettingGo (stage : Stage) : List Deed :=
  match stage.tx? with
  | some tx => [.made (.discard tx) ()]
  | none => []

inductive Course (length : Span) (order : Order) : Stage → List Deed → Ending → Prop
  | answered {stage outcome} (hm : order.move length stage = .answer outcome) :
      Course length order stage [] (.answered outcome)
  | replied {stage request next deeds ending} (hm : order.move length stage = .ask request next)
      (reply : request.Reply) (h : Course length order (next reply) deeds ending) :
      Course length order stage
        (.made request reply :: (order.judgement length stage request reply ++ deeds)) ending
  | expired {stage request next deeds ending} (hm : order.move length stage = .ask request next)
      (hw : stage.isWaiting = true) (h : Course length order stage.expire deeds ending) :
      Course length order stage (.cut request :: deeds) ending
  | abandoned {stage request next} (hm : order.move length stage = .ask request next)
      (ha : request.isAwaited = true) :
      Course length order stage (.cut request :: stage.lettingGo) .abandoned

/-- Any surroundings that answer every request at once let an order run its course, whatever they
remember of the requests before. -/
theorem course_of_surroundings {σ : Type} (length : Span)
    (perform : (request : Request) → StateM σ request.Reply) (order : Order) (stage : Stage)
    (s : σ) :
    ∃ deeds, Course length order stage deeds
      (.answered ((order.serve length perform stage).run s).1) := by
  fun_induction Order.serve length perform order stage generalizing s with
  | case1 stage outcome hm => exact ⟨[], .answered hm⟩
  | case2 stage request next hm ih =>
    obtain ⟨deeds, hcourse⟩ := ih (((perform request).run s).1) (((perform request).run s).2)
    exact ⟨_, .replied hm _ hcourse⟩

end Engine

open Engine (Deed Course)

namespace Office

/-- An office acts, and an order sees these deeds. While a row is waited for there is nothing to
see. -/
inductive Acts : Office → List Deed → Office → Prop
  | nil {o} : Acts o [] o
  | replied {o o' o'' request reply deeds} (hp : o.perform request = (o', some reply))
      (h : Acts o' deeds o'') : Acts o (.made request reply :: deeds) o''
  | waits {o o' o'' request deeds} (hp : o.perform request = (o', none)) (h : Acts o' deeds o'') :
      Acts o deeds o''
  | cut {o o' o'' request deeds} (hp : o.perform request = (o', none)) (h : Acts o' deeds o'') :
      Acts o (.cut request :: deeds) o''
  | judged {o o'' verdict deeds} (h : Acts o deeds o'') : Acts o (.judged verdict :: deeds) o''

theorem Acts.judgement {o o' : Office} {deeds : List Deed} (h : Acts o deeds o') (length : Span)
    (order : Order) (stage : Stage) (request : Request) (reply : request.Reply) :
    Acts o (order.judgement length stage request reply ++ deeds) o' := by
  unfold Order.judgement
  split
  · exact .judged h
  · exact h

theorem rules_perform (o : Office) (request : Request) : (o.perform request).1.rules = o.rules := by
  unfold perform
  split <;> rfl

theorem serve_is_course (o : Office) (deadline : Nat) (order : Order) (stage : Stage) :
    ∃ deeds, Acts o deeds (o.serve deadline order stage).1 ∧
      ∀ rest ending, Course o.rules.holdLength order (reached (o.serve deadline order stage).2) rest
        ending → Course o.rules.holdLength order stage (deeds ++ rest) ending := by
  fun_induction Office.serve o deadline order stage with
  | case1 o stage outcome hm =>
    refine ⟨[], .nil, fun rest ending h => ?_⟩
    rwa [eq_finished_of_answer hm]
  | case2 o stage request next hm o' reply hp ih =>
    obtain ⟨deeds, hacts, hcourse⟩ := ih
    have hrules : o'.rules = o.rules := by
      have := rules_perform o request
      rwa [hp] at this
    rw [hrules] at hcourse
    refine ⟨.made request reply ::
        (order.judgement o.rules.holdLength stage request reply ++ deeds),
      .replied hp (hacts.judgement _ _ _ _ _), fun rest ending h => ?_⟩
    have hnext := Course.replied hm reply (hcourse rest ending h)
    rw [List.cons_append, List.append_assoc]
    exact hnext
  | case3 o stage request next hm o' hp hw ih =>
    obtain ⟨deeds, hacts, hcourse⟩ := ih
    have hrules : o'.rules = o.rules := by
      have := rules_perform o request
      rwa [hp] at this
    rw [hrules] at hcourse
    exact ⟨.cut request :: deeds, .cut hp hacts,
      fun rest ending h => .expired hm hw.1 (hcourse rest ending h)⟩
  | case4 o stage request next hm o' hp hw =>
    exact ⟨[], .waits hp .nil, fun rest ending h => h⟩

theorem course_of_serve {o o' : Office} {deadline : Nat} {order : Order} {stage : Stage}
    {outcome : Outcome} (h : o.serve deadline order stage = (o', .ok outcome)) :
    ∃ deeds, Acts o deeds o' ∧
      Course o.rules.holdLength order stage deeds (.answered outcome) := by
  obtain ⟨deeds, hacts, hcourse⟩ := serve_is_course o deadline order stage
  rw [h] at hacts hcourse
  refine ⟨deeds, hacts, ?_⟩
  have hend : Course o.rules.holdLength order (.finished outcome) [] (.answered outcome) :=
    .answered rfl
  simpa using hcourse [] _ hend

end Office

end BoxOffice
