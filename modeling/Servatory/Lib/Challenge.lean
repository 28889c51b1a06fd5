import Mathlib.Logic.Relation

/-! A challenge with a nonce that was never used before, over two channels that keep their order and may lose
    messages. The responder repeats the last nonce it took in its acknowledgements, and makes requests within
    the session of that nonce. The challenger trusts the requests that follow an acknowledgement of its own
    nonce. -/

namespace Challenge

/-- A message to the responder. -/
inductive Down (N : Type)
  | hello (nonce : N)
  | other

/-- A message to the challenger. A request carries the session it was made in. -/
inductive Up (N : Type)
  | ack (nonce : N)
  | request (session : N)
  | other

/-- Both parties and the messages between them. `used` are the nonces the challenger has had, and `greeted` those
    that the responder took since the current one was chosen. -/
structure Link (N : Type) where
  nonce : N
  used : List N
  established : Bool
  session : Option N
  greeted : List N
  down : List (Down N)
  up : List (Up N)

variable {N : Type}

/-- What the parties and the channels do. -/
inductive Step : Link N → Link N → Prop
  | fresh (l : Link N) (n : N) (h : n ∉ l.used) :
    Step l { l with nonce := n, used := n :: l.used, established := false, greeted := [] }
  | hello (l : Link N) : Step l { l with down := l.down ++ [.hello l.nonce] }
  | send (l : Link N) : Step l { l with down := l.down ++ [.other] }
  | takeHello (l : Link N) (n : N) (rest : List (Down N)) (h : l.down = .hello n :: rest) :
    Step l { l with session := some n, greeted := l.greeted ++ [n], down := rest }
  | takeOther (l : Link N) (rest : List (Down N)) (h : l.down = .other :: rest) : Step l { l with down := rest }
  | ack (l : Link N) (n : N) (h : l.session = some n) : Step l { l with up := l.up ++ [.ack n] }
  | request (l : Link N) (n : N) (h : l.session = some n) : Step l { l with up := l.up ++ [.request n] }
  | answer (l : Link N) : Step l { l with up := l.up ++ [.other] }
  | leave (l : Link N) : Step l { l with session := none }
  | establish (l : Link N) (rest : List (Up N)) (h : l.up = .ack l.nonce :: rest) :
    Step l { l with established := true, up := rest }
  | reset (l : Link N) : Step l { l with established := false }
  | take (l : Link N) (m : Up N) (rest : List (Up N)) (h : l.up = m :: rest) : Step l { l with up := rest }
  | lose (l : Link N) (down : List (Down N)) (up : List (Up N)) (hd : down.Sublist l.down) (hu : up.Sublist l.up) :
    Step l { l with down, up }

abbrev Steps : Link N → Link N → Prop := Relation.ReflTransGen Step

/-- Once the responder has taken the current nonce, older challenges are gone, and what follows an acknowledgement of
    it was sent after that. -/
structure Inv (l : Link N) : Prop where
  nonce_used : l.nonce ∈ l.used
  down_used : ∀ n, .hello n ∈ l.down → n ∈ l.used
  up_used : ∀ n, .ack n ∈ l.up → n ∈ l.used
  session_used : ∀ n, l.session = some n → n ∈ l.used
  down_order : l.down.Pairwise fun a b => a = .hello l.nonce → ∀ n, b = .hello n → n = l.nonce
  down_greeted : l.nonce ∈ l.greeted → ∀ n, .hello n ∈ l.down → n = l.nonce
  session_greeted : l.nonce ∈ l.greeted → ∀ n, l.session = some n → n = l.nonce
  greeted_of_session : l.session = some l.nonce → l.nonce ∈ l.greeted
  greeted_of_ack : .ack l.nonce ∈ l.up → l.nonce ∈ l.greeted
  greeted_of_established : l.established = true → l.nonce ∈ l.greeted
  up_order : l.up.Pairwise fun a b => a = .ack l.nonce → ∀ n, b = .request n → n = l.nonce
  up_established : l.established = true → ∀ n, .request n ∈ l.up → n = l.nonce

namespace Inv
variable {l l' : Link N}

/-- A link on which nothing has been sent. -/
theorem start (nonce : N) : Inv ⟨nonce, [nonce], false, none, [], [], []⟩ where
  nonce_used := List.mem_singleton_self nonce
  down_used := nofun
  up_used := nofun
  session_used := nofun
  down_order := .nil
  down_greeted := nofun
  session_greeted := nofun
  greeted_of_session := nofun
  greeted_of_ack := nofun
  greeted_of_established := nofun
  up_order := .nil
  up_established := nofun

/-- A fresh nonce is nowhere on the link yet. -/
theorem fresh (h : Inv l) {n : N} (hn : n ∉ l.used) :
    Inv { l with nonce := n, used := n :: l.used, established := false, greeted := [] } where
  nonce_used := List.mem_cons_self ..
  down_used m hm := List.mem_cons_of_mem _ (h.down_used m hm)
  up_used m hm := List.mem_cons_of_mem _ (h.up_used m hm)
  session_used m hm := List.mem_cons_of_mem _ (h.session_used m hm)
  down_order := by
    refine List.pairwise_of_forall_mem_list fun a ha b _ heq => ?_
    exact absurd (h.down_used n (heq ▸ ha)) hn
  down_greeted := nofun
  session_greeted := nofun
  greeted_of_session hs := absurd (h.session_used n hs) hn
  greeted_of_ack ha := absurd (h.up_used n ha) hn
  greeted_of_established := nofun
  up_order := by
    refine List.pairwise_of_forall_mem_list fun a ha b _ heq => ?_
    exact absurd (h.up_used n (heq ▸ ha)) hn
  up_established := nofun

theorem hello (h : Inv l) : Inv { l with down := l.down ++ [.hello l.nonce] } := by
  have hlast : ∀ n, .hello n ∈ l.down ++ [.hello l.nonce] → .hello n ∈ l.down ∨ n = l.nonce := by
    intro n hn
    rcases List.mem_append.mp hn with hn | hn
    · exact .inl hn
    · exact .inr (Down.hello.inj (List.mem_singleton.mp hn))
  refine { h with down_used := ?_, down_order := ?_, down_greeted := ?_ }
  · intro n hn
    rcases hlast n hn with hn | rfl
    · exact h.down_used n hn
    · exact h.nonce_used
  · refine List.pairwise_append.mpr ⟨h.down_order, List.pairwise_singleton _ _, ?_⟩
    intro a _ b hb _ n hn
    rw [List.mem_singleton.mp hb] at hn
    exact (Down.hello.inj hn).symm
  · intro hg n hn
    rcases hlast n hn with hn | rfl
    · exact h.down_greeted hg n hn
    · rfl

theorem send (h : Inv l) : Inv { l with down := l.down ++ [.other] } := by
  have hlast : ∀ n, .hello n ∈ l.down ++ [.other] → .hello n ∈ l.down := by
    intro n hn
    rcases List.mem_append.mp hn with hn | hn
    · exact hn
    · cases List.mem_singleton.mp hn
  refine { h with down_used := fun n hn => h.down_used n (hlast n hn), down_order := ?_,
                  down_greeted := fun hg n hn => h.down_greeted hg n (hlast n hn) }
  refine List.pairwise_append.mpr ⟨h.down_order, List.pairwise_singleton _ _, ?_⟩
  intro a _ b hb _ n hn
  rw [List.mem_singleton.mp hb] at hn
  cases hn

/-- What an added message must satisfy: an acknowledgement belongs to a nonce that was taken, and a request that may be
    trusted to the current session. -/
theorem answer (h : Inv l) {m : Up N} (hused : ∀ n, m = .ack n → n ∈ l.used)
    (hack : m = .ack l.nonce → l.nonce ∈ l.greeted)
    (hrequest : l.nonce ∈ l.greeted → ∀ n, m = .request n → n = l.nonce) : Inv { l with up := l.up ++ [m] } := by
  refine { h with up_used := ?_, greeted_of_ack := ?_, up_order := ?_, up_established := ?_ }
  · intro n hn
    rcases List.mem_append.mp hn with hn | hn
    · exact h.up_used n hn
    · exact hused n (List.mem_singleton.mp hn).symm
  · intro hn
    rcases List.mem_append.mp hn with hn | hn
    · exact h.greeted_of_ack hn
    · exact hack (List.mem_singleton.mp hn).symm
  · refine List.pairwise_append.mpr ⟨h.up_order, List.pairwise_singleton _ _, ?_⟩
    intro a ha b hb heq n hn
    rw [List.mem_singleton.mp hb] at hn
    exact hrequest (h.greeted_of_ack (heq ▸ ha)) n hn
  · intro he n hn
    rcases List.mem_append.mp hn with hn | hn
    · exact h.up_established he n hn
    · exact hrequest (h.greeted_of_established he) n (List.mem_singleton.mp hn).symm

theorem ack (h : Inv l) {n : N} (hs : l.session = some n) : Inv { l with up := l.up ++ [.ack n] } := by
  refine h.answer ?_ ?_ nofun
  · rintro m ⟨⟩
    exact h.session_used n hs
  · intro heq
    exact h.greeted_of_session (hs.trans (congrArg some (Up.ack.inj heq)))

theorem request (h : Inv l) {n : N} (hs : l.session = some n) : Inv { l with up := l.up ++ [.request n] } := by
  refine h.answer nofun nofun ?_
  rintro hg m ⟨⟩
  exact h.session_greeted hg n hs

/-- The responder starts the session of a nonce. Behind the current one there is no other challenge. -/
theorem takeHello (h : Inv l) {n : N} {rest : List (Down N)} (hd : l.down = .hello n :: rest) :
    Inv { l with session := some n, greeted := l.greeted ++ [n], down := rest } := by
  have hn : .hello n ∈ l.down := hd ▸ List.mem_cons_self ..
  have hrest : ∀ m, .hello m ∈ rest → .hello m ∈ l.down := fun m hm => hd ▸ List.mem_cons_of_mem _ hm
  have horder := h.down_order
  rw [hd] at horder
  obtain ⟨hfirst, horder⟩ := List.pairwise_cons.mp horder
  have hgreeted : l.nonce ∈ l.greeted ++ [n] → n = l.nonce := by
    intro hg
    rcases List.mem_append.mp hg with hg | hg
    · exact h.down_greeted hg n hn
    · exact (List.mem_singleton.mp hg).symm
  exact
    { h with
      down_used := fun m hm => h.down_used m (hrest m hm)
      session_used := by
        rintro m ⟨⟩
        exact h.down_used n hn
      down_order := horder
      down_greeted := fun hg m hm => hfirst _ hm (by rw [hgreeted hg]) m rfl
      session_greeted := by
        rintro hg m ⟨⟩
        exact hgreeted hg
      greeted_of_session := by
        intro heq
        exact List.mem_append_right _ (List.mem_singleton.mpr (Option.some.inj heq).symm)
      greeted_of_ack := fun ha => List.mem_append_left _ (h.greeted_of_ack ha)
      greeted_of_established := fun he => List.mem_append_left _ (h.greeted_of_established he) }

/-- The channels lose messages and keep the others in order. -/
theorem lose (h : Inv l) {down : List (Down N)} {up : List (Up N)} (hd : down.Sublist l.down) (hu : up.Sublist l.up) :
    Inv { l with down, up } :=
  { h with
    down_used := fun n hn => h.down_used n (hd.subset hn)
    up_used := fun n hn => h.up_used n (hu.subset hn)
    down_order := h.down_order.sublist hd
    down_greeted := fun hg n hn => h.down_greeted hg n (hd.subset hn)
    greeted_of_ack := fun ha => h.greeted_of_ack (hu.subset ha)
    up_order := h.up_order.sublist hu
    up_established := fun he n hn => h.up_established he n (hu.subset hn) }

/-- The requests that follow an acknowledgement of the current nonce were made in its session. -/
theorem establish (h : Inv l) {rest : List (Up N)} (hu : l.up = .ack l.nonce :: rest) :
    Inv { l with established := true, up := rest } := by
  have horder := h.up_order
  rw [hu] at horder
  have hloss : Inv { l with up := rest } := h.lose (.refl _) (hu ▸ List.sublist_cons_self ..)
  exact { hloss with
    greeted_of_established := fun _ => h.greeted_of_ack (hu ▸ List.mem_cons_self ..)
    up_established := fun _ n hn => (List.pairwise_cons.mp horder).1 _ hn rfl n rfl }

theorem step (h : Inv l) (hs : Step l l') : Inv l' := by
  cases hs with
  | fresh n hn => exact h.fresh hn
  | hello => exact h.hello
  | send => exact h.send
  | takeHello n rest hd => exact h.takeHello hd
  | takeOther rest hd => exact h.lose (hd ▸ List.sublist_cons_self ..) (.refl _)
  | ack n hs => exact h.ack hs
  | request n hs => exact h.request hs
  | answer => exact h.answer nofun nofun nofun
  | leave => exact { h with session_used := nofun, session_greeted := nofun, greeted_of_session := nofun }
  | establish rest hu => exact h.establish hu
  | reset => exact { h with greeted_of_established := nofun, up_established := nofun }
  | take m rest hu => exact h.lose (.refl _) (hu ▸ List.sublist_cons_self ..)
  | lose down up hd hu => exact h.lose hd hu

theorem steps (h : Inv l) (hs : Steps l l') : Inv l' := by
  induction hs with
  | refl => exact h
  | tail _ hs ih => exact ih.step hs

end Inv
end Challenge
