import Mathlib
import FrameLink.Proofs.Link.Fates
import FrameLink.Proofs.Link.TimeUp
/-!
The numbers that a connection draws. Only a send or a request at an open socket draws one, so they are
those of the counter, one after the other: none comes again before all the others have come.
-/

namespace FrameLink

namespace Correlation.Counter

theorem getElem?_draws {count place : Nat} (within : place < count) (counter : Counter) :
    (counter.draws count)[place]? = some ⟨counter.next + .ofNat place⟩ := by
  induction count generalizing place counter with
  | zero => exact absurd within (Nat.not_lt_zero place)
  | succ count ih =>
    cases place with
    | zero => simp [draws, draw]
    | succ place =>
      rw [draws, List.getElem?_cons_succ, ih (Nat.lt_of_succ_lt_succ within)]
      simp only [draw, UInt64.ofNat_add, Option.some.injEq, Correlation.mk.injEq]
      rw [UInt64.add_assoc, UInt64.add_comm 1]
      rfl

theorem length_draws (count : Nat) (counter : Counter) : (counter.draws count).length = count := by
  induction count generalizing counter with
  | zero => rfl
  | succ count ih => rw [draws, List.length_cons, ih]

theorem dvd_of_drawn_again {count place : Nat} {counter : Counter}
    (again : (counter.draw.2.draws count)[place]? = some counter.draw.1) : 2 ^ 64 ∣ place + 1 := by
  have within : place < count := by
    rw [← length_draws count counter.draw.2]
    exact (List.getElem?_eq_some_iff.mp again).1
  rw [getElem?_draws within, Option.some.injEq, Correlation.mk.injEq] at again
  have none : UInt64.ofNat (place + 1) = 0 := by
    have shifted : counter.next + UInt64.ofNat (place + 1) = counter.next + 0 := by
      rw [UInt64.add_zero, UInt64.ofNat_add, UInt64.add_comm (.ofNat place), ← UInt64.add_assoc]
      exact again
    exact (UInt64.add_right_inj counter.next).mp shifted
  have value := congrArg UInt64.toNat none
  rw [UInt64.toNat_ofNat', UInt64.toNat_zero] at value
  exact Nat.dvd_of_mod_eq_zero value

end Correlation.Counter

namespace Link.Connection

open Wait Past

variable {σ α β : Type}

theorem counter_take [Wire α] (event : Event) (connection : Connection σ α) :
    (connection.take event).counter = connection.counter := by
  cases event with
  | opened | closed reason => rfl
  | message data =>
    change (connection.deliver data).counter = connection.counter
    unfold deliver
    split
    · rfl
    · split
      · split <;> rfl
      · rfl

section Unattended

variable [Transport σ]

theorem counter_lapse (call : Call) (connection : Connection σ α) :
    (connection.lapse call).2.counter = connection.counter := by
  obtain ⟨inbox, receipts, frame⟩ := attend_frame call connection
  unfold lapse
  cases attended : connection.attend call with
  | mk outcome left =>
    obtain rfl : left = _ := (congrArg Prod.snd attended).symm.trans frame
    cases outcome with
    | some outcome => rfl
    | none =>
      change (handleTimeout _ _).counter = _
      obtain ⟨_, _, handled⟩ := books_handleTimeout [] call.timeout
        (({ connection with exchange := { connection.exchange with inbox, receipts } } :
          Connection σ α).quit call |>.retire call)
      refine (congrArg Books.counter handled).trans ?_
      unfold retire
      split <;> rfl

theorem counter_beginRequest [Wire β] (body : β) (timeout : Duration) (connection : Connection σ α) :
    (connection.beginRequest body timeout).2.counter =
      if connection.state.1 = .socket .ready then connection.counter.draw.2
      else connection.counter := by
  have same : connection.state.2.counter = connection.counter :=
    congrArg Books.counter (books_state [] connection)
  unfold beginRequest
  cases seen : connection.state with
  | mk state left =>
    rw [seen] at same
    cases state with
    | idle => simpa using same
    | socket readiness =>
      cases readiness with
      | connecting | closing | closed => simpa using same
      | ready =>
        simp only [if_true, ← same]
        split
        · rfl
        · split <;> rfl

end Unattended

namespace Life

variable [Transport σ]

def drawn (life : Life σ α) : Deed σ β → List Correlation
  | .sends _ | .requests _ _ =>
    if life.connection.state.1 = .socket .ready then [life.connection.counter.draw.1] else []
  | _ => []

variable [Wire α] [Wire β]

theorem issued_notes (life : Life σ α) (deed : Deed σ β) : issued (life.notes deed) = life.drawn deed := by
  cases deed with
  | sends body | requests body timeout =>
    simp only [notes, drawn]
    split
    · split <;> rfl
    · rfl
  | cancels ticket | lapses ticket | pumps =>
    simp only [notes, drawn]
    repeat' split
    all_goals rfl
  | dials | concludes | disconnects | receives | attends | stirs | passes => rfl

theorem counter_receives (life : Life σ α) (timeout : Duration) :
    (life.step (.receives timeout : Deed σ β)).connection.counter = life.connection.counter := by
  change (life.connection.beginReceive timeout).2.counter = _
  unfold beginReceive
  dsimp only
  split <;> rfl

theorem counter_attends (life : Life σ α) (ticket : Ticket) :
    (life.step (.attends ticket : Deed σ β)).connection.counter = life.connection.counter := by
  simp only [step]
  cases life.connection.call? ticket with
  | none => rfl
  | some call =>
    obtain ⟨inbox, receipts, frame⟩ := attend_frame call life.connection
    cases attended : life.connection.attend call with
    | mk outcome left =>
      obtain rfl : left = _ := (congrArg Prod.snd attended).symm.trans frame
      simp only [attended]
      cases outcome <;> rfl

theorem counter_lapses (life : Life σ α) (ticket : Ticket) :
    (life.step (.lapses ticket : Deed σ β)).connection.counter = life.connection.counter := by
  simp only [step]
  cases life.connection.call? ticket with
  | none => rfl
  | some call =>
    dsimp only
    split
    · rfl
    · exact counter_lapse call life.connection

theorem counter_step (life : Life σ α) (deed : Deed σ β) :
    life.drawn deed = [] ∧ (life.step deed).connection.counter = life.connection.counter ∨
      life.drawn deed = [life.connection.counter.draw.1] ∧
        (life.step deed).connection.counter = life.connection.counter.draw.2 := by
  cases deed with
  | sends body =>
    have sent := congrArg Books.counter (books_send [] body life.connection)
    rw [apply_ite Books.counter] at sent
    change _ ∧ (life.connection.send body).2.counter = _ ∨
      _ ∧ (life.connection.send body).2.counter = _
    by_cases ready : life.connection.state.1 = .socket .ready
    · exact .inr ⟨if_pos ready, sent.trans (if_pos ready)⟩
    · exact .inl ⟨if_neg ready, sent.trans (if_neg ready)⟩
  | requests body timeout =>
    have begun := counter_beginRequest body timeout life.connection
    by_cases ready : life.connection.state.1 = .socket .ready
    · exact .inr ⟨if_pos ready, begun.trans (if_pos ready)⟩
    · exact .inl ⟨if_neg ready, begun.trans (if_neg ready)⟩
  | dials url verbose =>
    refine .inl ⟨rfl, ?_⟩
    simp only [step]
    split
    · exact congrArg Books.counter (books_dial [] url verbose life.connection)
    · rfl
  | concludes url =>
    exact .inl ⟨rfl, congrArg Books.counter (books_conclude [] url life.connection)⟩
  | disconnects => exact .inl ⟨rfl, congrArg Books.counter (books_disconnect [] life.connection)⟩
  | receives timeout => exact .inl ⟨rfl, counter_receives life timeout⟩
  | attends ticket => exact .inl ⟨rfl, counter_attends life ticket⟩
  | cancels ticket =>
    refine .inl ⟨rfl, ?_⟩
    simp only [step, cancel]
    cases life.connection.call? ticket <;> rfl
  | lapses ticket => exact .inl ⟨rfl, counter_lapses life ticket⟩
  | pumps =>
    refine .inl ⟨rfl, ?_⟩
    simp only [step]
    split
    · exact counter_take ..
    · rfl
  | stirs transport reports log =>
    exact .inl ⟨rfl, congrArg Books.counter
      (books_hear [] reports { life.connection with transport })⟩
  | passes span => exact .inl ⟨rfl, rfl⟩

end Life

namespace Traced

variable [Transport σ] [Wire α] [Wire β]

def drawn : List (Use σ β) → Traced σ α → List Correlation
  | [], _ => []
  | .does deed :: uses, traced => traced.life.drawn deed ++ drawn uses (traced.step deed)
  | .hooks onTimeout onClosed :: uses, traced => drawn uses (traced.hook onTimeout onClosed)

/-- However a connection is used, it draws what its counter hands out. -/
theorem drawn_eq_draws (uses : List (Use σ β)) (traced : Traced σ α) :
    ∃ count, traced.drawn uses = traced.life.connection.counter.draws count := by
  induction uses generalizing traced with
  | nil => exact ⟨0, rfl⟩
  | cons use uses ih =>
    cases use with
    | does deed =>
      obtain ⟨count, rest⟩ := ih (traced.step deed)
      rcases traced.life.counter_step deed with ⟨none, same⟩ | ⟨one, next⟩
      · refine ⟨count, ?_⟩
        rw [drawn, none, List.nil_append, rest]
        exact congrArg (Correlation.Counter.draws count) same
      · refine ⟨count + 1, ?_⟩
        rw [drawn, one, rest, Correlation.Counter.draws, List.singleton_append]
        exact congrArg (_ :: Correlation.Counter.draws count ·) next
    | hooks onTimeout onClosed => exact ih (traced.hook onTimeout onClosed)

theorem dvd_of_drawn_again {traced : Traced σ α} {deed : Deed σ β} {id : Correlation}
    (drew : id ∈ traced.life.drawn deed) {later : List (Use σ β)} {place : Nat}
    (again : ((traced.step deed).drawn later)[place]? = some id) : 2 ^ 64 ∣ place + 1 := by
  rcases traced.life.counter_step deed with ⟨none, _⟩ | ⟨one, next⟩
  · rw [none] at drew
    cases drew
  · rw [one, List.mem_singleton] at drew
    subst drew
    obtain ⟨count, rest⟩ := (traced.step deed).drawn_eq_draws later
    rw [rest, show (traced.step deed).life.connection.counter = _ from next] at again
    exact Correlation.Counter.dvd_of_drawn_again again

/-- As long as few numbers are drawn, the books are as some past tells. -/
theorem agrees_uses {past : List (Note α)} (uses : List (Use σ β)) {traced : Traced σ α}
    (agrees : Agrees past traced.life.books)
    (few : (issued past).length + (traced.drawn uses).length < 2 ^ 64) :
    ∃ whole, Agrees whole (traced.uses uses).life.books ∧
      (issued whole).length = (issued past).length + (traced.drawn uses).length := by
  induction uses generalizing past traced with
  | nil => exact ⟨past, agrees, rfl⟩
  | cons use uses ih =>
    cases use with
    | does deed =>
      rw [drawn, List.length_append, ← Nat.add_assoc] at few ⊢
      have before : (issued past).length < 2 ^ 64 := by omega
      have next := agrees.entry before (traced.life.entry (agrees.kept before) deed)
      have longer : (issued (traced.life.notes deed ++ past)).length =
          (issued past).length + (traced.life.drawn deed).length := by
        rw [issued_append, List.length_append, Life.issued_notes, Nat.add_comm]
      rw [← longer] at few ⊢
      exact ih next few
    | hooks => exact ih agrees few

theorem drawn_all {settings : ConnectSettings} {transport : σ} {uses : List (Use σ β)}
    (outstanding : let connection :=
        ((ofTransport settings transport : Traced σ α).uses uses).life.connection
      connection.exchange.pending.find? connection.counter.draw.1 ≠ none) :
    2 ^ 64 ≤ ((ofTransport settings transport : Traced σ α).drawn uses).length := by
  by_contra less
  have few : (issued ([] : List (Note α))).length + _ < 2 ^ 64 :=
    (Nat.zero_add _).trans_lt (Nat.not_le.mp less)
  have new : Agrees [] (ofTransport settings transport : Traced σ α).life.books :=
    agrees_new settings transport
  obtain ⟨whole, agrees, count⟩ := agrees_uses uses new few
  exact outstanding (agrees.kept (count ▸ few)).number

end Traced

end Link.Connection

end FrameLink
