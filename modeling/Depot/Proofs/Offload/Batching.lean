import Depot.Proofs.Messenger.Memory
import Depot.Proofs.Offload.Headers
import Depot.Proofs.Offload.Publishing

namespace Depot

variable {σ τ ι : Type}

/-- A call for each item of a list, one after another, as long as they succeed. -/
def Action.inTurn (act : ι → Action σ (Outcome Unit)) : List ι → Action σ (Outcome Unit)
  | [] => pure (.ok ())
  | i :: rest => (act i).onSuccess fun _ => inTurn act rest

namespace Action

theorem inTurn_nil_eq_ok {act : ι → Action σ (Outcome Unit)} {s later : σ} :
    inTurn act [] s = (.ok (.ok ()), later) ↔ s = later := by
  simp only [inTurn, pure, Prod.mk.injEq, true_and]

theorem inTurn_cons_eq_ok {act : ι → Action σ (Outcome Unit)} {i : ι} {rest : List ι} {s later : σ} :
    inTurn act (i :: rest) s = (.ok (.ok ()), later) ↔
      ∃ middle, act i s = (.ok (.ok ()), middle) ∧ inTurn act rest middle = (.ok (.ok ()), later) := by
  constructor
  · intro run
    obtain ⟨done, middle, first, others⟩ := onSuccess_eq_ok run
    exact ⟨middle, first, others⟩
  · rintro ⟨middle, first, others⟩
    exact (onSuccess_of_ok first).trans others

theorem Agree.inTurn {E : σ → τ → Prop} {act : ι → Action σ (Outcome Unit)} {act' : ι → Action τ (Outcome Unit)}
    (each : ∀ i, Agree E (act i) (act' i)) (items : List ι) :
    Agree E (Action.inTurn act items) (Action.inTurn act' items) := by
  induction items with
  | nil => exact .still (.ok (.ok ())) (fun _ => rfl) fun _ => rfl
  | cons i rest ih => exact (each i).onSuccess fun _ => ih

end Action

open Depot.Action (inTurn)

/-- A publisher for which to put a batch is to put its messages one by one: a batch that goes out has the effect of
its messages in turn, and a batch of one message is that message. -/
structure Publisher.OneByOne (p : Publisher σ) : Prop where
  batch : ∀ m rest s later,
    p.putAll (m :: rest) s = (.ok (.ok ()), later) ↔ inTurn p.put (m :: rest) s = (.ok (.ok ()), later)
  single : ∀ m, p.putAll [m] = p.put m

theorem Messenger.memory_oneByOne (channel : String) : (memory.publisher channel).OneByOne := by
  have each (m : Message) (rest : List Message) (s : Memory) :
      inTurn (memory.publisher channel).put (m :: rest) s = (memory.publisher channel).putAll (m :: rest) s := by
    induction rest generalizing m s with
    | nil => rfl
    | cons other rest ih =>
      have first : (memory.publisher channel).put m s = (.ok (.ok ()), s.send channel [m]) := rfl
      have together : (memory.publisher channel).putAll (m :: other :: rest) s =
          (.ok (.ok ()), s.send channel ([m] ++ other :: rest)) := rfl
      rw [inTurn, Action.onSuccess_of_ok first, ih, together, Memory.send_append]
      rfl
  exact ⟨fun m rest s later => by rw [each], fun m => rfl⟩

/-- To write a blob. -/
def Blobs.stow (b : Blobs τ) (blob : String × Bytes) : Action τ (Outcome Unit) := b.write blob.1 (.bytes blob.2)

theorem Blobs.paired_write_eq_ok {b : Blobs τ} {key : String} {content : Content} {before after : σ × τ} :
    b.paired.write key content before = (.ok (.ok ()), after) ↔
      ∃ t, b.write key content before.2 = (.ok (.ok ()), t) ∧ after = (before.1, t) := by
  change ((b.write key content).zoom Prod.snd fun t pair => (pair.1, t)) before = _ ↔ _
  exact Action.zoom_eq_ok_iff

namespace Offload
namespace Sender

section

variable {sender : Sender σ} {m : Message} {o : Message × Option String} {ps : List (Message × Option String)}
  {messages : List Message} {keys : List String} {scope packed later : Scope σ}

/-- The entry of a blob that has been written. -/
def stowed (key : String) (size : Nat) : Log.Entry :=
  ⟨.debug, "messaging.large", "Offloaded message content", [keyField key, sizeField size]⟩

/-- A message could be packed: it stays whole, or its blob has been written. -/
theorem pack_eq_ok : sender.pack m scope = (.ok (.ok o), packed) ↔
    (m.content.length ≤ sender.limit ∧ o = (whole m, none) ∧ packed = scope) ∨
      (¬ m.content.length ≤ sender.limit ∧ o = (pointer m scope.keys.next, some scope.keys.next) ∧
        ∃ t, sender.blobs.write scope.keys.next (.bytes m.content) scope.inner = (.ok (.ok ()), t) ∧
          packed = ⟨t, scope.keys.advance, scope.log ++ [stowed scope.keys.next m.content.length]⟩) := by
  constructor
  · intro run
    by_cases small : m.content.length ≤ sender.limit
    · rw [sender.pack_small small] at run
      cases run
      exact Or.inl ⟨small, rfl, rfl⟩
    · refine Or.inr ⟨small, ?_⟩
      simp only [pack, if_neg small] at run
      obtain ⟨key, drawn, first, run⟩ := Action.bind_eq_ok run
      cases first
      obtain ⟨result, stored, second, run⟩ := Action.bind_eq_ok run
      obtain ⟨t, written, rfl⟩ := Action.zoom_eq_ok second
      cases result with
      | error e => cases run
      | ok done =>
        cases run
        exact ⟨rfl, t, written, rfl⟩
  · rintro (⟨small, rfl, rfl⟩ | ⟨large, rfl, t, written, rfl⟩)
    · exact sender.pack_small small _
    · have drawn : Scope.drawKey scope = (.ok scope.keys.next, { scope with keys := scope.keys.advance }) := rfl
      have stored : Scope.within (sender.blobs.write scope.keys.next (.bytes m.content))
          { scope with keys := scope.keys.advance } = (.ok (.ok ()), ⟨t, scope.keys.advance, scope.log⟩) :=
        Action.zoom_apply written
      simp only [pack, if_neg large]
      rw [Action.bind_of_ok drawn, Action.bind_of_ok stored]
      rfl

/-- The next message of a batch that goes out. -/
theorem posted_cons (run : sender.pack m scope = (.ok (.ok o), packed)) (rest : List Message) :
    posted sender.limit scope.keys (m :: rest) = o.1 :: posted sender.limit packed.keys rest := by
  rw [posted, blobKeys]
  rcases pack_eq_ok.mp run with ⟨small, rfl, rfl⟩ | ⟨large, rfl, t, -, rfl⟩
  · rw [if_pos small]
    rfl
  · rw [if_neg large]
    rfl

/-- Messages are packed one after another, all of them with success. -/
inductive PacksAll (sender : Sender σ) :
    List Message → Scope σ → List (Message × Option String) → Scope σ → Prop
  | nil (scope : Scope σ) : PacksAll sender [] scope [] scope
  | cons {m : Message} {rest : List Message} {o : Message × Option String} {ps : List (Message × Option String)}
      {scope middle packed : Scope σ} (first : sender.pack m scope = (.ok (.ok o), middle))
      (others : PacksAll sender rest middle ps packed) : PacksAll sender (m :: rest) scope (o :: ps) packed

theorem packsAll_iff : sender.PacksAll messages scope ps packed ↔
    Action.runAll (messages.map sender.pack) scope = ((ps.map .ok).map .ok, packed) := by
  constructor
  · intro packs
    induction packs with
    | nil => rfl
    | cons first others ih =>
      rw [List.map_cons, Action.runAll_cons first, ih]
      rfl
  · intro run
    induction messages generalizing ps scope with
    | nil =>
      cases ps with
      | nil =>
        cases run
        exact .nil _
      | cons o ps => cases run
    | cons m rest ih =>
      rcases first : sender.pack m scope with ⟨result, middle⟩
      rw [List.map_cons, Action.runAll_cons first, Prod.mk.injEq] at run
      obtain ⟨results, rfl⟩ := run
      cases ps with
      | nil => cases results
      | cons o ps =>
        rw [List.map_cons, List.map_cons, List.cons.injEq] at results
        rw [results.1] at first
        exact .cons first (ih (Prod.ext results.2 rfl))

theorem PacksAll.posted_eq (packs : sender.PacksAll messages scope ps packed) :
    posted sender.limit scope.keys messages = ps.map Prod.fst := by
  induction packs with
  | nil => rfl
  | cons first others ih => rw [posted_cons first, ih, List.map_cons]

theorem publish_eq_ok {act : Action σ (Outcome Unit)} :
    sender.publish keys act scope = (.ok (.ok ()), later) ↔ Scope.within act scope = (.ok (.ok ()), later) := by
  constructor
  · intro run
    obtain ⟨result, sent, answered, run⟩ := Action.bind_eq_ok run
    cases result with
    | ok done =>
      cases run
      exact answered
    | error e =>
      obtain ⟨done, discarded, -, run⟩ := Action.bind_eq_ok run
      cases run
  · exact fun answered => Action.bind_of_ok answered

theorem put_eq_ok : sender.put m scope = (.ok (.ok ()), later) ↔
    ∃ o packed, sender.pack m scope = (.ok (.ok o), packed) ∧
      Scope.within (sender.publisher.put o.1) packed = (.ok (.ok ()), later) := by
  constructor
  · intro run
    obtain ⟨o, packed, first, second⟩ := Action.onSuccess_eq_ok run
    exact ⟨o, packed, first, publish_eq_ok.mp second⟩
  · rintro ⟨o, packed, first, second⟩
    exact (Action.onSuccess_of_ok first).trans (publish_eq_ok.mpr second)

theorem putAll_cons_eq_ok {rest : List Message} : sender.putAll (m :: rest) scope = (.ok (.ok ()), later) ↔
    ∃ ps packed, sender.PacksAll (m :: rest) scope ps packed ∧
      Scope.within (sender.publisher.putAll (ps.map Prod.fst)) packed = (.ok (.ok ()), later) := by
  constructor
  · intro run
    obtain ⟨outcomes, packed, gathered, run⟩ := Action.bind_eq_ok run
    rw [Action.gather_apply, Prod.mk.injEq, Outcome.mapM_id_eq_ok_iff] at gathered
    obtain ⟨results, left⟩ := gathered
    dsimp only at run
    cases all : outcomes.mapM id with
    | error e =>
      rw [all] at run
      obtain ⟨done, discarded, -, run⟩ := Action.bind_eq_ok run
      cases run
    | ok ps =>
      rw [all] at run
      refine ⟨ps, packed, packsAll_iff.mpr (Prod.ext ?_ left), publish_eq_ok.mp run⟩
      rw [results, Outcome.mapM_id_eq_ok_iff.mp all]
  · rintro ⟨ps, packed, packs, answered⟩
    have gathered : Action.gather ((m :: rest).map sender.pack) scope = (.ok (ps.map .ok), packed) := by
      rw [Action.gather_apply, packsAll_iff.mp packs, Outcome.mapM_id_eq_ok_iff.mpr rfl]
    have all : (ps.map .ok : List (Outcome (Message × Option String))).mapM id = .ok ps :=
      Outcome.mapM_id_eq_ok_iff.mpr rfl
    refine (Action.bind_of_ok gathered).trans ?_
    rw [all]
    exact publish_eq_ok.mpr answered

/-- A batch of one message is that message, whatever becomes of its blob, of the publication and of the cleaning
up, if it is so for the publisher beneath. -/
theorem putAll_singleton (single : ∀ m, sender.publisher.putAll [m] = sender.publisher.put m) (m : Message) :
    sender.putAll [m] = sender.put m := by
  funext scope
  rcases run : sender.pack m scope with ⟨result, packed⟩
  have gathered : Action.gather ([m].map sender.pack) scope = ([result].mapM id, packed) := by
    rw [Action.gather_apply, List.map_singleton, Action.runAll_cons run]
    rfl
  rcases result with fault | e | ⟨out, key⟩
  · rw [put, Action.onSuccess_of_fault run]
    exact Action.bind_of_error gathered
  · -- No blob has been written, so that there is none to clean up.
    rw [put, Action.onSuccess_of_error run]
    exact Action.bind_of_ok gathered
  · have published : sender.publish key.toList (sender.publisher.putAll [out]) packed =
        sender.publish key.toList (sender.publisher.put out) packed := by
      rw [single]
    rw [put, Action.onSuccess_of_ok run]
    cases key with
    | none => exact (Action.bind_of_ok gathered).trans published
    | some key => exact (Action.bind_of_ok gathered).trans published

end

section

variable {sender : Sender (σ × τ)} {b : Blobs τ} {p : Publisher σ} {m : Message} {o : Message × Option String}
  {ps : List (Message × Option String)} {messages : List Message} {scope packed later : Scope (σ × τ)}

theorem pack_paired_eq_ok (stores : sender.blobs = b.paired) : sender.pack m scope = (.ok (.ok o), packed) ↔
    (m.content.length ≤ sender.limit ∧ o = (whole m, none) ∧ packed = scope) ∨
      (¬ m.content.length ≤ sender.limit ∧ o = (pointer m scope.keys.next, some scope.keys.next) ∧
        ∃ t, b.write scope.keys.next (.bytes m.content) scope.inner.2 = (.ok (.ok ()), t) ∧
          packed = ⟨(scope.inner.1, t), scope.keys.advance,
            scope.log ++ [stowed scope.keys.next m.content.length]⟩) := by
  rw [pack_eq_ok, stores]
  refine or_congr_right (and_congr_right fun large => and_congr_right fun out => ?_)
  constructor
  · rintro ⟨inner, written, rfl⟩
    obtain ⟨t, stored, rfl⟩ := Blobs.paired_write_eq_ok.mp written
    exact ⟨t, stored, rfl⟩
  · rintro ⟨t, written, rfl⟩
    exact ⟨_, Blobs.paired_write_eq_ok.mpr ⟨t, written, rfl⟩, rfl⟩

/-- Packing does nothing to the messenger, and would go the same way with any other. -/
theorem pack_beside (stores : sender.blobs = b.paired) (run : sender.pack m scope = (.ok (.ok o), packed)) :
    packed.inner.1 = scope.inner.1 ∧
      ∀ s, sender.pack m (scope.withMessenger s) = (.ok (.ok o), packed.withMessenger s) := by
  rcases (pack_paired_eq_ok stores).mp run with ⟨small, rfl, rfl⟩ | ⟨large, rfl, t, written, rfl⟩
  · exact ⟨rfl, fun s => sender.pack_small small _⟩
  · exact ⟨rfl, fun s => (pack_paired_eq_ok stores).mpr (Or.inr ⟨large, rfl, t, written, rfl⟩)⟩

theorem PacksAll.beside (stores : sender.blobs = b.paired) (packs : sender.PacksAll messages scope ps packed) :
    packed.inner.1 = scope.inner.1 ∧
      ∀ s, sender.PacksAll messages (scope.withMessenger s) ps (packed.withMessenger s) := by
  induction packs with
  | nil scope => exact ⟨rfl, fun s => .nil _⟩
  | cons first others ih =>
    obtain ⟨same, elsewhere⟩ := pack_beside stores first
    exact ⟨ih.1.trans same, fun s => .cons (elsewhere s) (ih.2 s)⟩

/-- The blobs of a batch, after its first message has been packed. -/
theorem stow_cons (stores : sender.blobs = b.paired) (run : sender.pack m scope = (.ok (.ok o), packed))
    (rest : List Message) (t : τ) :
    inTurn b.stow (blobsFor sender.limit scope.keys (m :: rest)) scope.inner.2 = (.ok (.ok ()), t) ↔
      inTurn b.stow (blobsFor sender.limit packed.keys rest) packed.inner.2 = (.ok (.ok ()), t) := by
  rw [blobsFor]
  rcases (pack_paired_eq_ok stores).mp run with ⟨small, rfl, rfl⟩ | ⟨large, rfl, stored, written, rfl⟩
  · rw [if_pos small]
  · have first : b.stow (scope.keys.next, m.content) scope.inner.2 = (.ok (.ok ()), stored) := written
    rw [if_neg large, inTurn, Action.onSuccess_of_ok first]

/-- A message can be packed if the blobs of a batch can be written of which it is the first. -/
theorem pack_of_stow (stores : sender.blobs = b.paired) {rest : List Message} {t : τ}
    (run : inTurn b.stow (blobsFor sender.limit scope.keys (m :: rest)) scope.inner.2 = (.ok (.ok ()), t)) :
    ∃ o packed, sender.pack m scope = (.ok (.ok o), packed) := by
  by_cases small : m.content.length ≤ sender.limit
  · exact ⟨_, _, sender.pack_small small scope⟩
  · rw [blobsFor, if_neg small] at run
    obtain ⟨stored, written, -⟩ := Action.inTurn_cons_eq_ok.mp run
    exact ⟨_, _, (pack_paired_eq_ok stores).mpr (Or.inr ⟨small, rfl, stored, written, rfl⟩)⟩

/-- A batch can be packed if and only if its blobs can be written one after another. -/
theorem packsAll_iff_stow (stores : sender.blobs = b.paired) {t : τ} :
    (∃ ps packed, sender.PacksAll messages scope ps packed ∧ packed.inner.2 = t) ↔
      inTurn b.stow (blobsFor sender.limit scope.keys messages) scope.inner.2 = (.ok (.ok ()), t) := by
  constructor
  · rintro ⟨ps, packed, packs, rfl⟩
    induction packs with
    | nil scope => rfl
    | cons first others ih => exact (stow_cons stores first _ _).mpr ih
  · intro run
    induction messages generalizing scope with
    | nil => exact ⟨[], scope, .nil scope, Action.inTurn_nil_eq_ok.mp run⟩
    | cons m rest ih =>
      obtain ⟨o, middle, first⟩ := pack_of_stow stores run
      obtain ⟨ps, packed, packs, after⟩ := ih ((stow_cons stores first rest t).mp run)
      exact ⟨o :: ps, packed, .cons first packs, after⟩

/-- All messages are packed, and what goes out for them is put one by one. -/
def Delivers (sender : Sender (σ × τ)) (p : Publisher σ) (messages : List Message) (scope later : Scope (σ × τ)) :
    Prop :=
  ∃ ps packed, sender.PacksAll messages scope ps packed ∧
    ∃ s, inTurn p.put (ps.map Prod.fst) scope.inner.1 = (.ok (.ok ()), s) ∧ later = packed.withMessenger s

theorem delivers_nil : sender.Delivers p [] scope later ↔ later = scope := by
  constructor
  · rintro ⟨ps, packed, packs, s, put, rfl⟩
    cases packs
    cases put
    rfl
  · rintro rfl
    exact ⟨[], later, .nil later, later.inner.1, rfl, rfl⟩

/-- Packing the rest after the first message has been published is packing it before. -/
theorem delivers_cons (stores : sender.blobs = b.paired) {rest : List Message} :
    sender.Delivers p (m :: rest) scope later ↔
      ∃ o packed, sender.pack m scope = (.ok (.ok o), packed) ∧
        ∃ s, p.put o.1 scope.inner.1 = (.ok (.ok ()), s) ∧ sender.Delivers p rest (packed.withMessenger s) later := by
  constructor
  · rintro ⟨_, packed, _ | ⟨first, others⟩, t, put, rfl⟩
    obtain ⟨s, publishes, more⟩ := Action.inTurn_cons_eq_ok.mp put
    exact ⟨_, _, first, s, publishes, _, _, (others.beside stores).2 s, t, more, rfl⟩
  · rintro ⟨o, middle, first, s, publishes, ps, packed, others, t, more, rfl⟩
    have same := (pack_beside stores first).1
    -- The messenger as it was is put back, for the rest to be packed before anything is published.
    have before : sender.PacksAll rest middle ps (packed.withMessenger scope.inner.1) := by
      have back := (others.beside stores).2 scope.inner.1
      rw [← same] at back ⊢
      exact back
    exact ⟨o :: ps, _, .cons first before, t, Action.inTurn_cons_eq_ok.mpr ⟨s, publishes, more⟩, rfl⟩

theorem inTurn_put_iff_delivers (stores : sender.blobs = b.paired) (publishes : sender.publisher = p.paired) :
    inTurn sender.put messages scope = (.ok (.ok ()), later) ↔ sender.Delivers p messages scope later := by
  induction messages generalizing scope with
  | nil => rw [Action.inTurn_nil_eq_ok, delivers_nil, eq_comm]
  | cons m rest ih =>
    rw [Action.inTurn_cons_eq_ok, delivers_cons stores]
    constructor
    · rintro ⟨middle, first, others⟩
      obtain ⟨o, packed, run, sent⟩ := put_eq_ok.mp first
      rw [publishes] at sent
      obtain ⟨s, put, rfl⟩ := Scope.within_messenger_eq_ok.mp sent
      rw [(pack_beside stores run).1] at put
      exact ⟨o, packed, run, s, put, ih.mp others⟩
    · rintro ⟨o, packed, run, s, put, others⟩
      rw [← (pack_beside stores run).1] at put
      refine ⟨packed.withMessenger s, put_eq_ok.mpr ⟨o, packed, run, ?_⟩, ih.mpr others⟩
      rw [publishes]
      exact Scope.within_messenger put

theorem putAll_iff_delivers (stores : sender.blobs = b.paired) (publishes : sender.publisher = p.paired)
    (beneath : p.OneByOne) :
    sender.putAll messages scope = (.ok (.ok ()), later) ↔ sender.Delivers p messages scope later := by
  cases messages with
  | nil =>
    have run : sender.putAll [] scope = (.ok (.ok ()), scope) := rfl
    rw [delivers_nil, run, Prod.mk.injEq, eq_comm (a := later)]
    exact ⟨And.right, fun same => ⟨rfl, same⟩⟩
  | cons m rest =>
    rw [putAll_cons_eq_ok, publishes]
    refine exists_congr fun ps => exists_congr fun packed => and_congr_right fun packs => ?_
    refine Scope.within_messenger_eq_ok.trans (exists_congr fun s => and_congr_left fun left => ?_)
    rw [(packs.beside stores).1]
    cases packs with
    | cons first others =>
      rw [List.map_cons]
      exact beneath.batch ..

end

/-- The messages that a call hands to the publisher beneath, in order. -/
def handed (sender : Sender σ) (call : Sender (Overseen σ) → Action (Scope (Overseen σ)) (Outcome Unit))
    (scope : Scope σ) : List Message :=
  (call sender.overseen scope.overseen).2.inner.given.flatMap Prod.fst

section

variable {sender : Sender σ} {messages : List Message} {scope : Scope σ}

theorem PacksAll.given {scope packed : Scope (Overseen σ)} {ps : List (Message × Option String)}
    (packs : sender.overseen.PacksAll messages scope ps packed) : packed.inner.given = scope.inner.given := by
  induction packs with
  | nil => rfl
  | @cons m _ _ _ scope _ _ first _ ih =>
    have step := (sender.pack_overseen m scope).1.given
    rw [first] at step
    exact ih.trans step

theorem given_putAll {scope later : Scope (Overseen σ)}
    (run : sender.overseen.putAll messages scope = (.ok (.ok ()), later)) :
    later.inner.given.flatMap Prod.fst =
      scope.inner.given.flatMap Prod.fst ++ posted sender.limit scope.keys messages := by
  cases messages with
  | nil =>
    cases run
    exact (List.append_nil _).symm
  | cons m rest =>
    obtain ⟨ps, packed, packs, sent⟩ := putAll_cons_eq_ok.mp run
    obtain ⟨s, taken, rfl⟩ := Action.zoom_eq_ok sent
    have given : s.given = packed.inner.given ++ [(ps.map Prod.fst, packed.inner.now)] :=
      congrArg (fun answer => answer.2.given) taken.symm
    have outgoing : posted sender.limit scope.keys (m :: rest) = ps.map Prod.fst := packs.posted_eq
    rw [outgoing]
    change s.given.flatMap Prod.fst = _
    rw [given, packs.given, List.flatMap_append, List.flatMap_singleton]

theorem given_inTurn {scope later : Scope (Overseen σ)}
    (run : inTurn sender.overseen.put messages scope = (.ok (.ok ()), later)) :
    later.inner.given.flatMap Prod.fst =
      scope.inner.given.flatMap Prod.fst ++ posted sender.limit scope.keys messages := by
  induction messages generalizing scope with
  | nil =>
    obtain rfl := Action.inTurn_nil_eq_ok.mp run
    exact (List.append_nil _).symm
  | cons m rest ih =>
    obtain ⟨middle, first, others⟩ := Action.inTurn_cons_eq_ok.mp run
    obtain ⟨o, packed, packs, sent⟩ := put_eq_ok.mp first
    obtain ⟨s, taken, rfl⟩ := Action.zoom_eq_ok sent
    have given : s.given = packed.inner.given ++ [([o.1], packed.inner.now)] :=
      congrArg (fun answer => answer.2.given) taken.symm
    have before := (sender.pack_overseen m scope).1.given
    rw [packs] at before
    have outgoing : posted sender.limit scope.keys (m :: rest) = o.1 :: posted sender.limit packed.keys rest :=
      posted_cons packs rest
    rw [ih others, outgoing]
    change s.given.flatMap Prod.fst ++ posted sender.limit packed.keys rest = _
    rw [given, before, List.flatMap_append, List.flatMap_singleton, List.append_assoc, List.singleton_append]

theorem handed_putAll (run : (sender.putAll messages scope).1 = .ok (.ok ())) :
    sender.handed (·.putAll messages) scope = posted sender.limit scope.keys messages := by
  have same := (sender.agree_putAll messages scope.overseen scope ⟨rfl, rfl, rfl⟩).1.trans run
  exact given_putAll (Prod.ext same rfl)

theorem handed_inTurn (run : (inTurn sender.put messages scope).1 = .ok (.ok ())) :
    sender.handed (inTurn ·.put messages) scope = posted sender.limit scope.keys messages := by
  have agree := Action.Agree.inTurn sender.agree_put messages
  have same := (agree scope.overseen scope ⟨rfl, rfl, rfl⟩).1.trans run
  exact given_inTurn (Prod.ext same rfl)

end

/-- The publisher beneath is one for which to put a batch is to put its messages one by one, and the store knows
nothing of it. Then a batch succeeds if and only if its messages do one by one, and both leave the same behind. They
succeed if and only if all blobs can be written and all that goes out can be put, and this is what has then been
done to the store and to the publisher, which is handed the same messages in the same order either way. A batch of
one message does what putting the message does, whatever fails, and hands over the same. -/
theorem batch_agrees_with_single {p : Publisher σ} (beneath : p.OneByOne) {b : Blobs τ} {sender : Sender (σ × τ)}
    (stores : sender.blobs = b.paired) (publishes : sender.publisher = p.paired) :
    (∀ messages scope later, sender.putAll messages scope = (.ok (.ok ()), later) ↔
      inTurn sender.put messages scope = (.ok (.ok ()), later)) ∧
    (∀ messages scope s t,
      (∃ later, sender.putAll messages scope = (.ok (.ok ()), later) ∧ later.inner = (s, t)) ↔
        inTurn p.put (posted sender.limit scope.keys messages) scope.inner.1 = (.ok (.ok ()), s) ∧
          inTurn b.stow (blobsFor sender.limit scope.keys messages) scope.inner.2 = (.ok (.ok ()), t)) ∧
    (∀ messages scope, (sender.putAll messages scope).1 = .ok (.ok ()) →
      sender.handed (·.putAll messages) scope = posted sender.limit scope.keys messages ∧
        sender.handed (inTurn ·.put messages) scope = posted sender.limit scope.keys messages) ∧
    ∀ m, sender.putAll [m] = sender.put m ∧ sender.overseen.putAll [m] = sender.overseen.put m := by
  have same (messages : List Message) (scope later : Scope (σ × τ)) :
      sender.putAll messages scope = (.ok (.ok ()), later) ↔
        inTurn sender.put messages scope = (.ok (.ok ()), later) :=
    (putAll_iff_delivers stores publishes beneath).trans (inTurn_put_iff_delivers stores publishes).symm
  refine ⟨same, fun messages scope s t => ?_, fun messages scope run => ?_, fun m => ?_⟩
  · constructor
    · rintro ⟨later, run, left⟩
      obtain ⟨ps, packed, packs, s, put, rfl⟩ := (putAll_iff_delivers stores publishes beneath).mp run
      cases left
      rw [packs.posted_eq]
      exact ⟨put, (packsAll_iff_stow stores).mp ⟨ps, packed, packs, rfl⟩⟩
    · rintro ⟨put, written⟩
      obtain ⟨ps, packed, packs, rfl⟩ := (packsAll_iff_stow stores).mpr written
      rw [packs.posted_eq] at put
      exact ⟨_, (putAll_iff_delivers stores publishes beneath).mpr ⟨ps, packed, packs, s, put, rfl⟩, rfl⟩
  · have singly := (same messages scope _).mp (Prod.ext run rfl)
    exact ⟨handed_putAll run, handed_inTurn (congrArg Prod.fst singly)⟩
  · have single (m : Message) : sender.publisher.putAll [m] = sender.publisher.put m := by
      rw [publishes]
      exact congrArg (Action.zoom Prod.fst fun s pair => (s, pair.2)) (beneath.single m)
    have seen (m : Message) : sender.overseen.publisher.putAll [m] = sender.overseen.publisher.put m := by
      funext s
      exact congrArg (fun act : Action (σ × τ) (Outcome Unit) => ((act s.now).1,
        { s with now := (act s.now).2, given := s.given ++ [([m], s.now)] })) (single m)
    exact ⟨putAll_singleton single m, putAll_singleton seen m⟩

/-- A small message and three longer ones, over a messenger and a store in memory: the messages one by one succeed,
as the batch does, and the publisher is handed the same four messages. -/
theorem batch_agrees_with_single_crate :
    let sender := senderOn Messenger.memory Blobs.memory "jobs" 2 true
    let scope : Scope (Messenger.Memory × Store) := { inner := ({}, {}), keys := .cycle ["a", "b", "c"] }
    let out := posted 2 scope.keys crate
    out.map blobKey? = [none, some "a", some "b", some "c"] ∧
      (∃ later, sender.putAll crate scope = (.ok (.ok ()), later) ∧
        inTurn sender.put crate scope = (.ok (.ok ()), later)) ∧
      sender.handed (·.putAll crate) scope = out ∧ sender.handed (inTurn ·.put crate) scope = out := by
  intro sender scope out
  obtain ⟨same, -, handed, -⟩ := batch_agrees_with_single (Messenger.memory_oneByOne "jobs")
    (show sender.blobs = Blobs.memory.paired from rfl)
    (show sender.publisher = (Messenger.memory.publisher "jobs").paired from rfl)
  have run : sender.putAll crate scope = (.ok (.ok ()), (sender.putAll crate scope).2) := Prod.ext (by rfl) rfl
  exact ⟨by decide, ⟨_, run, (same _ _ _).mp run⟩, handed crate scope (congrArg Prod.fst run)⟩

end Sender
end Offload
end Depot
