import Offload.Proofs.Builtins

/-!
# Requests in turn

A kernel is given its arguments one after another: the request with number `k` is answered by
argument `k`, whether those before it were granted or refused, and behind the last argument every
request is answered alike. A request changes nothing.
-/

namespace Offload

def BoundArgument.type : BoundArgument → ElementType
  | .buffer _ type _ => type
  | .scalar value => value.type

namespace Cpu

/-! ## One argument and one request -/

def Request.type : Request → ElementType
  | .input t | .output t | .scalar t => t

/-- The argument is of the kind that is asked for; to be written, it is bound for writing. -/
def Request.Suits : Request → BoundArgument → Prop
  | .input _, .buffer .. => True
  | .output _, .buffer _ _ access => access.writes = true
  | .scalar _, .scalar _ => True
  | _, _ => False

section Answers

variable {s : Store Allocation} {k : Nat} {x : BoundArgument} {r : Request}

/-- What argument `k` gives to a request that is for it. -/
inductive Gives (s : Store Allocation) (k : Nat) : BoundArgument → (r : Request) → r.Answer → Prop
    where
  | input {handle : Handle} {t : ElementType} {access : Access} :
      Gives s k (.buffer handle t access) (.input t) (elementsOf s handle t)
  | output {handle : Handle} {t : ElementType} {access : Access} (hw : access.writes = true) :
      Gives s k (.buffer handle t access) (.output t) ⟨k, elementsOf s handle t⟩
  | scalar {value : Scalar} : Gives s k (.scalar value) (.scalar value.type) value.bits

/-- Why argument `k` is refused. Its type is looked at last. -/
inductive Refuses (k : Nat) : BoundArgument → Request → Fault → Prop where
  | input {value : Scalar} {t : ElementType} :
      Refuses k (.scalar value) (.input t) (.argumentKind k "buffer")
  | output {value : Scalar} {t : ElementType} :
      Refuses k (.scalar value) (.output t) (.argumentKind k "buffer")
  | scalar {handle : Handle} {type t : ElementType} {access : Access} :
      Refuses k (.buffer handle type access) (.scalar t) (.argumentKind k "scalar")
  | readOnly {handle : Handle} {type t : ElementType} {access : Access}
      (hw : access.writes = false) :
      Refuses k (.buffer handle type access) (.output t) (.readOnly k)
  | type {x : BoundArgument} {r : Request} (hs : r.Suits x) (ht : x.type ≠ r.type) :
      Refuses k x r (.argumentType k r.type x.type)

theorem answer_eq_ok_iff {answer : r.Answer} :
    (slotOf x).answer s k r = .ok answer ↔ Gives s k x r answer := by
  cases r with
  | input t =>
      rw [answer_input_iff]
      constructor
      · rintro ⟨handle, access, rfl, rfl⟩
        exact .input
      · rintro ⟨⟩
        exact ⟨_, _, rfl, rfl⟩
  | output t =>
      rw [answer_output_iff]
      constructor
      · rintro ⟨handle, access, rfl, hw, rfl⟩
        exact .output hw
      · rintro ⟨⟩
        exact ⟨_, _, rfl, ‹_›, rfl⟩
  | scalar t =>
      rw [answer_scalar_iff]
      constructor
      · rintro ⟨value, rfl, hv⟩
        obtain ⟨ht, rfl⟩ : ∃ h : value.type = t, h ▸ value.bits = answer := by
          unfold Scalar.get? at hv
          split at hv
          · next h => exact ⟨h, Option.some.inj hv⟩
          · cases hv
        subst ht
        exact .scalar
      · rintro ⟨⟩
        exact ⟨_, rfl, Scalar.get?_self _⟩

theorem exists_gives_iff : (∃ answer, Gives s k x r answer) ↔ r.Suits x ∧ x.type = r.type := by
  constructor
  · rintro ⟨answer, ⟨⟩⟩
    · exact ⟨trivial, rfl⟩
    · exact ⟨‹_›, rfl⟩
    · exact ⟨trivial, rfl⟩
  · rintro ⟨hs, ht⟩
    cases x with
    | buffer handle type access =>
        cases r with
        | input t => cases ht; exact ⟨_, .input⟩
        | output t => cases ht; exact ⟨_, .output hs⟩
        | scalar t => exact hs.elim
    | scalar value =>
        cases r with
        | input t => exact hs.elim
        | output t => exact hs.elim
        | scalar t => cases ht; exact ⟨_, .scalar⟩

theorem refuses_iff_of_suits {f : Fault} (hs : r.Suits x) :
    Refuses k x r f ↔ x.type ≠ r.type ∧ f = .argumentType k r.type x.type := by
  constructor
  · intro h
    cases h with
    | input => exact hs.elim
    | output => exact hs.elim
    | scalar => exact hs.elim
    | readOnly hw => exact absurd (hw.symm.trans hs) Bool.false_ne_true
    | type _ ht => exact ⟨ht, rfl⟩
  · rintro ⟨ht, rfl⟩
    exact .type hs ht

theorem Refuses.not_gives {f : Fault} {answer : r.Answer} (h : Refuses k x r f) :
    ¬ Gives s k x r answer := by
  intro hg
  obtain ⟨hs, ht⟩ := exists_gives_iff.mp ⟨answer, hg⟩
  exact ((refuses_iff_of_suits hs).mp h).1 ht

theorem Refuses.unique {f f' : Fault} (h : Refuses k x r f) (h' : Refuses k x r f') : f = f' := by
  cases h with
  | input =>
      cases h' with
      | input => rfl
      | type hs => exact hs.elim
  | output =>
      cases h' with
      | output => rfl
      | type hs => exact hs.elim
  | scalar =>
      cases h' with
      | scalar => rfl
      | type hs => exact hs.elim
  | readOnly hw =>
      cases h' with
      | readOnly => rfl
      | type hs => exact absurd (hw.symm.trans hs) Bool.false_ne_true
  | type hs => exact ((refuses_iff_of_suits hs).mp h').2.symm

theorem refuses_of_answer {f : Fault} (h : (slotOf x).answer s k r = .error f) :
    Refuses k x r f := by
  cases x with
  | buffer handle type access =>
      cases r with
      | input t =>
          rw [answer_input] at h
          obtain ⟨ht, rfl⟩ := checkType_eq_error_iff.mp h
          exact .type trivial ht
      | output t =>
          cases hw : access.writes with
          | true =>
              rw [answer_output hw] at h
              obtain ⟨ht, rfl⟩ := checkType_eq_error_iff.mp h
              exact .type hw ht
          | false =>
              rw [answer_readOnly hw] at h
              cases h
              exact .readOnly hw
      | scalar t =>
          simp only [slotOf] at h
          split at h <;> cases h <;> exact .scalar
  | scalar value =>
      cases r with
      | input t => cases h; exact .input
      | output t => cases h; exact .output
      | scalar t =>
          simp only [slotOf, Slot.answer] at h
          split at h
          · cases h
          · next hv =>
              cases h
              exact .type trivial (Scalar.get?_eq_none_iff.mp hv)

theorem answer_eq_error_iff {f : Fault} :
    (slotOf x).answer s k r = .error f ↔ Refuses k x r f := by
  refine ⟨refuses_of_answer, fun h => ?_⟩
  cases ha : (slotOf x).answer s k r with
  | ok answer => exact absurd (answer_eq_ok_iff.mp ha) h.not_gives
  | error f' => rw [(refuses_of_answer ha).unique h]

end Answers

/-! ## Counting requests -/

/-- The answer to request `k`, counted from the first argument on. -/
def reply (slots : List Slot) (s : Store Allocation) (k : Nat) (r : Request) :
    Except Fault r.Answer :=
  match slots[k]? with
  | some slot => slot.answer s k r
  | none => .error (.missingArgument slots.length slots.length)

/-- Requests in the next step of a procedure; none where it goes back to the first argument. -/
def Procedure.requests? {α : Type} : Procedure α → Option Nat
  | .ask .. => some 1
  | .restart _ => none
  | _ => some 0

namespace Stage

variable {α : Type} {slots : List Slot} {s s' : Stage α} {k n : Nat}

/-- A kernel comes from one stage to the other with `k` requests on its way, and does not go back to
the first argument. -/
inductive Asks (slots : List Slot) : Stage α → Nat → Stage α → Prop where
  | refl (s : Stage α) : Asks slots s 0 s
  | step {s s' s'' : Stage α} {n k : Nat} (hr : s.rest.requests? = some n)
      (next : s.next? slots = some s') (asks : Asks slots s' k s'') : Asks slots s (n + k) s''

/-- A request moves on by one argument, and stops behind the last. -/
theorem next?_ask {r : Request} {next : Except Fault r.Answer → Procedure α}
    (hs : s.rest = .ask r next) (hc : s.cursor = min k slots.length) :
    s.next? slots =
      some ⟨next (reply slots s.machine.buffers k r), min (k + 1) slots.length, s.machine⟩ := by
  simp only [next?, hs, hc, reply]
  rcases Nat.lt_or_ge k slots.length with hk | hk
  · rw [Nat.min_eq_left (Nat.le_of_lt hk), Nat.min_eq_left hk]
    simp only [List.getElem?_eq_getElem hk]
  · rw [Nat.min_eq_right hk, Nat.min_eq_right (Nat.le_succ_of_le hk)]
    simp only [List.getElem?_eq_none hk, List.getElem?_eq_none (Nat.le_refl _)]

theorem next?_cursor (hc : s.cursor = min k slots.length) (hr : s.rest.requests? = some n)
    (h : s.next? slots = some s') : s'.cursor = min (k + n) slots.length := by
  obtain ⟨rest, cursor, machine⟩ := s
  cases rest with
  | done a => cases h
  | fail e => cases h
  | unwind p => cases h
  | ask request next =>
      rw [next?_ask rfl hc] at h
      cases hr
      cases h
      rfl
  | store index type values next =>
      cases hr
      simp only [next?] at h
      split at h <;> cases h <;> exact hc
  | restart next => cases hr
  | record entry next => cases hr; cases h; exact hc
  | references name next => cases hr; cases h; exact hc

theorem Asks.cursor (h : Asks slots s n s') (hc : s.cursor = min k slots.length) :
    s'.cursor = min (k + n) slots.length := by
  induction h generalizing k with
  | refl s => exact hc
  | step hr next _ ih =>
      rw [← Nat.add_assoc]
      exact ih (next?_cursor hc hr next)

end Stage

/-- A request with its answer. -/
structure Reply where
  request : Request
  answer : Except Fault request.Answer

/-- Asks for one argument after another, whatever the answers are, and ends with the replies. -/
def Procedure.askAll (replies : List Reply) : List Request → Procedure (List Reply)
  | [] => .done replies
  | r :: rest => .ask r fun answer => askAll (replies ++ [⟨r, answer⟩]) rest

/-- The replies to requests, of which the first has number `k`. -/
def repliesFrom (slots : List Slot) (s : Store Allocation) (k : Nat) (requests : List Request) :
    List Reply :=
  (requests.zipIdx k).map fun (r, i) => ⟨r, reply slots s i r⟩

theorem run_askAll (slots : List Slot) (m : Machine carriers) (requests : List Request) (k : Nat)
    (replies : List Reply) :
    (Procedure.askAll replies requests).run slots (min k slots.length) m =
      (.ok (replies ++ repliesFrom slots m.buffers k requests), m) := by
  induction requests generalizing k replies with
  | nil =>
      rw [repliesFrom, List.zipIdx_nil, List.map_nil, List.append_nil]
      rfl
  | cons r rest ih =>
      have asked : (⟨Procedure.askAll replies (r :: rest), min k slots.length, m⟩ : Stage _).next?
          slots = some _ := Stage.next?_ask rfl rfl
      refine (Stage.run_next asked).trans ((ih (k + 1) _).trans ?_)
      rw [List.append_assoc]
      rfl

/-! ## Arguments in turn -/

/-- What becomes of request `k`. -/
structure Answered (arguments : List BoundArgument) (s : Store Allocation) (k : Nat) (r : Request)
    (answer : Except Fault r.Answer) : Prop where
  granted : ∀ x, arguments[k]? = some x →
    ((∃ given, answer = .ok given) ↔ r.Suits x ∧ x.type = r.type)
  given : ∀ x, arguments[k]? = some x → ∀ given, answer = .ok given ↔ Gives s k x r given
  refused : ∀ x, arguments[k]? = some x → ∀ f, answer = .error f ↔ Refuses k x r f
  missing : arguments.length ≤ k →
    answer = .error (.missingArgument arguments.length arguments.length)

theorem reply_answered (arguments : List BoundArgument) (s : Store Allocation) (k : Nat)
    (r : Request) : Answered arguments s k r (reply (arguments.map slotOf) s k r) := by
  have found {x : BoundArgument} (hx : arguments[k]? = some x) :
      reply (arguments.map slotOf) s k r = (slotOf x).answer s k r := by
    simp only [reply, List.getElem?_map, hx, Option.map_some]
  refine ⟨fun x hx => ?_, fun x hx given => ?_, fun x hx f => ?_, fun hk => ?_⟩
  · rw [found hx, ← exists_gives_iff (s := s) (k := k)]
    exact exists_congr fun _ => answer_eq_ok_iff
  · rw [found hx]
    exact answer_eq_ok_iff
  · rw [found hx]
    exact answer_eq_error_iff
  · simp only [reply, List.getElem?_map, List.getElem?_eq_none hk, Option.map_none,
      List.length_map]

/-- Of any requests one after another, the one with number `k` is answered by argument `k`, whatever
became of those before it, and those for which there is no argument are all answered alike. None of
them changes the machine. So it is at any point of any kernel, counted from where it started or went
back to the first argument. -/
theorem requests_in_turn {address : Handle → Nat} {arguments : List BoundArgument}
    {bound : Invocation.Bound} (hb : Invocation.bind address arguments = .ok bound) :
    (∀ (requests : List Request) (m : Machine carriers), ∃ replies,
      (Procedure.askAll [] requests).run bound.slots 0 m = (.ok replies, m) ∧
        replies.map Reply.request = requests ∧
        ∀ (k : Nat) (reply : Reply), replies[k]? = some reply →
          Answered arguments m.buffers k reply.request reply.answer) ∧
    ∀ (α : Type) (s s' : Stage α) (k : Nat), s.cursor = 0 → s.Asks bound.slots k s' →
      ∀ (r : Request) (next : Except Fault r.Answer → Procedure α), s'.rest = .ask r next →
        ∃ answer cursor, s'.next? bound.slots = some ⟨next answer, cursor, s'.machine⟩ ∧
          Answered arguments s'.machine.buffers k r answer := by
  rw [Invocation.bind_slots hb]
  refine ⟨fun requests m => ⟨repliesFrom (arguments.map slotOf) m.buffers 0 requests, ?_, ?_, ?_⟩,
    fun α s s' k hc asks r next hs => ?_⟩
  · have ran := run_askAll (arguments.map slotOf) m requests 0 []
    rw [Nat.zero_min] at ran
    exact ran
  · rw [repliesFrom, List.map_map]
    exact List.zipIdx_map_fst 0 requests
  · intro k reply hk
    rw [repliesFrom, List.getElem?_map, Option.map_eq_some_iff] at hk
    obtain ⟨⟨r, i⟩, hi, rfl⟩ := hk
    rw [List.getElem?_zipIdx, Option.map_eq_some_iff] at hi
    obtain ⟨_, -, he⟩ := hi
    cases he
    rw [Nat.zero_add]
    exact reply_answered ..
  · have hk := asks.cursor (k := 0) (by rw [hc, Nat.zero_min])
    rw [Nat.zero_add] at hk
    exact ⟨_, _, Stage.next?_ask hs hk, reply_answered ..⟩

/-- Both arguments are refused, and there is no third one. A kernel that has written into the first
one is refused the second one too. -/
theorem requests_in_turn_refused :
    let arguments := [BoundArgument.buffer ⟨0⟩ .u32 .write, .buffer ⟨1⟩ .u32 .read]
    ∃ bound, Invocation.bind Handle.index arguments = .ok bound ∧
      (Procedure.askAll [] [.scalar .u32, .output .u32, .input .u32]).run bound.slots 0 sixAndFour =
        (.ok [⟨.scalar .u32, .error (.argumentKind 0 "scalar")⟩,
          ⟨.output .u32, .error (.readOnly 1)⟩, ⟨.input .u32, .error (.missingArgument 2 2)⟩],
          sixAndFour) ∧
      Answered arguments sixAndFour.buffers 1 (.output .u32) (.error (.readOnly 1)) ∧
      Answered arguments sixAndFour.buffers 2 (.input .u32) (.error (.missingArgument 2 2)) ∧
      ∃ s next, (⟨grasping ⟨⟨1, #v[4, 1, 1], none⟩, fun _ => none, 2⟩, 0, sixAndFour⟩ :
          Stage Unit).Asks bound.slots 1 s ∧ s.rest = .ask (.output .u32) next ∧
        ∃ cursor, s.next? bound.slots = some ⟨next (.error (.readOnly 1)), cursor, s.machine⟩ := by
  intro arguments
  obtain ⟨bound, hb⟩ : ∃ bound, Invocation.bind Handle.index arguments = .ok bound := ⟨_, rfl⟩
  have hs : bound.slots = [.exclusive ⟨0⟩ .u32, .shared ⟨1⟩ .u32] := Invocation.bind_slots hb
  obtain ⟨listed, anywhere⟩ := requests_in_turn hb
  refine ⟨bound, hb, ?_⟩
  rw [hs] at listed anywhere ⊢
  obtain ⟨replies, ran, -, answered⟩ := listed [.scalar .u32, .output .u32, .input .u32] sixAndFour
  obtain rfl : replies = [⟨.scalar .u32, .error (.argumentKind 0 "scalar")⟩,
      ⟨.output .u32, .error (.readOnly 1)⟩, ⟨.input .u32, .error (.missingArgument 2 2)⟩] :=
    Outcome.ok.inj (congrArg Prod.fst ran.symm)
  -- The kernel asks for the first argument, and stores into it.
  have asks : (⟨grasping ⟨⟨1, #v[4, 1, 1], none⟩, fun _ => none, 2⟩, 0, sixAndFour⟩ :
      Stage Unit).Asks [.exclusive ⟨0⟩ .u32, .shared ⟨1⟩ .u32] 1 _ :=
    .step (n := 1) (k := 0) rfl rfl (.step (n := 0) (k := 0) rfl rfl (.refl _))
  obtain ⟨answer, cursor, next, refused⟩ := anywhere Unit _ _ 1 rfl asks (.output .u32) _ rfl
  obtain rfl : answer = .error (.readOnly 1) := (refused.refused _ rfl _).mpr (.readOnly rfl)
  exact ⟨ran, answered 1 _ rfl, answered 2 _ rfl, _, _, asks, rfl, cursor, next⟩

end Cpu

end Offload
