import Depot.Proofs.Action.Relations
import Depot.Proofs.ListClient.Unsteady
import Depot.Proofs.ListServer
import Depot.Proofs.Message.Envelope.Reading
import Depot.Proofs.Message.Envelope.Writing
import Depot.Proofs.Messenger.Listed.Encoding
import Depot.Proofs.Messenger.Listed.Requests

namespace Depot.Messenger

open Depot.Action (Answers FailsBy)

/-- The failures that messengers report. -/
abbrev Ours (e : Failure) : Prop := e.area = .messaging

/-- From a state, a call is interrupted by exactly these faults, and else it reports no failures but a messenger's. -/
structure Raises {σ α : Type} (act : Action σ (Outcome α)) (s : σ) (faults : Fault → Prop) : Prop where
  raised : ∀ fault, (act s).1 = .error fault ↔ faults fault
  failed : ∀ e, (act s).1 = .ok (.error e) → Ours e

section

variable {σ α β : Type} {act : Action σ (Outcome α)} {s : σ} {faults : Fault → Prop}

theorem Raises.of_iff (raises : Raises act s faults) {others : Fault → Prop}
    (same : ∀ fault, others fault ↔ faults fault) : Raises act s others :=
  ⟨fun fault => (raises.raised fault).trans (same fault).symm, raises.failed⟩

theorem raises_of_answers (answers : Answers Ours act) (s : σ) : Raises act s fun _ => False := by
  obtain ⟨answer, later, run, fails⟩ := answers s
  refine ⟨fun fault => ?_, fun e failed => ?_⟩
  · rw [run]
    exact iff_of_false nofun id
  · rw [run] at failed
    exact fails e (Except.ok.inj failed)

theorem Raises.answering (raises : Raises act s faults) (reply : α → Reply) :
    Raises (Messenger.answering reply act) s faults := by
  obtain ⟨raised, failed⟩ := raises
  rcases run : act s with ⟨fault | answer, later⟩ <;> rw [run] at raised failed
  · have interrupted : Messenger.answering reply act s = (.error fault, later) := Action.bind_of_error run
    constructor <;> rw [interrupted]
    · exact fun other => by simpa using raised other
    · exact fun _ same => nomatch same
  · constructor <;> rw [answering_of_ok run]
    · exact fun other => by simpa using raised other
    · exact fun e same => failed e (congrArg Except.ok (Outcome.map_eq_error_iff.mp (Except.ok.inj same)))

end

namespace Listed

variable {σ α : Type} [ListClient σ] {s : Listed σ}

theorem failsBy_connect : FailsBy Ours (connect (σ := σ)) := by
  intro s e later run
  have connecting := connect_cases s
  rw [run] at connecting
  cases connecting <;> rfl

theorem raises_of_connected {body : Action (Listed σ) (Outcome α)} {faults : Fault → Prop}
    (inner : ∀ opened, connect s = (.ok (.ok ()), opened) → Raises body opened faults) :
    Raises (connect.onSuccess fun _ => body) s fun fault =>
      s.Strands fault ∨ (connect s).1 = .ok (.ok ()) ∧ faults fault := by
  have strands {fault : Fault} : (connect s).1 = .error fault ↔ s.Strands fault := connect_eq_error_iff
  rcases run : connect s with ⟨found | e | _, opened⟩ <;> rw [run] at strands
  · constructor <;> rw [Action.onSuccess_of_fault run]
    · exact fun fault => by rw [← strands]; simp
    · exact fun _ same => nomatch same
  · constructor <;> rw [Action.onSuccess_of_error run]
    · exact fun fault => by rw [← strands]; simp
    · intro e' same
      cases same
      exact failsBy_connect s e opened run
  · obtain ⟨raised, failed⟩ := inner opened run
    constructor <;> rw [Action.onSuccess_of_ok run]
    · exact fun fault => by rw [raised, ← strands]; simp
    · exact failed

theorem raises_of_body {body : Action (Listed σ) (Outcome α)} (answers : Answers Ours body) (s : Listed σ) :
    Raises (connect.onSuccess fun _ => body) s s.Strands :=
  (raises_of_connected fun opened _ => raises_of_answers answers opened).of_iff fun fault => by simp

theorem raises_connected {operation : String} {about : Option String}
    {act : Listed σ → Action (Listed σ) (Outcome α)} (inner : ∀ s, FailsBy Ours (act s)) (s : Listed σ) :
    Raises (connected operation about act) s s.Strands :=
  raises_of_body (.state fun s => (inner s).reporting fun _ => rfl) s

theorem failsBy_ifKnown (channel : String) : FailsBy Ours (ifKnown (σ := σ) channel) := by
  refine .bind fun s => .bind fun known => ?_
  cases known with
  | true => exact Action.failsBy_ok ()
  | false => exact Action.failsBy_error rfl

theorem raises_createChannels {names : List String} (some_named : names ≠ []) (s : Listed σ) :
    Raises (createChannels names) s s.Strands := by
  unfold createChannels
  rw [if_neg (List.isEmpty_iff.not.mpr some_named)]
  exact raises_connected (fun _ => .bind fun _ => Action.failsBy_ok ()) s

theorem raises_channels (s : Listed σ) : Raises channels s s.Strands :=
  raises_connected (fun _ => .bind fun _ => .bind fun _ => Action.failsBy_ok _) s

theorem raises_deleteChannels {names : List String} (some_named : names ≠ []) (s : Listed σ) :
    Raises (deleteChannels names) s s.Strands := by
  unfold deleteChannels
  rw [if_neg (List.isEmpty_iff.not.mpr some_named)]
  exact raises_connected (fun _ => .bind fun _ => Action.failsBy_ok ()) s

theorem raises_count (channel : String) (s : Listed σ) : Raises (count channel) s s.Strands :=
  raises_connected (fun _ => (failsBy_ifKnown channel).onSuccess fun _ => .bind fun _ => Action.failsBy_ok _) s

theorem raises_receive (channel : String) (limit : Int) (s : Listed σ) :
    Raises (receive channel limit) s s.Strands := by
  refine raises_of_body ?_ s
  split
  · exact Action.answers_ok []
  refine .state fun s => FailsBy.reporting ?_ fun _ => rfl
  refine (failsBy_ifKnown channel).onSuccess fun _ => .bind fun raws => .bind fun received => ?_
  dsimp only
  split
  · exact .bind fun _ => Action.failsBy_ok _
  · exact Action.failsBy_ok _

theorem raises_peek (channel : String) (limit : Int) (s : Listed σ) : Raises (peek channel limit) s s.Strands := by
  refine raises_of_body ?_ s
  split
  · exact Action.answers_ok []
  refine .state fun s => FailsBy.reporting ?_ fun _ => rfl
  exact (failsBy_ifKnown channel).onSuccess fun _ => .bind fun _ => .bind fun _ => Action.failsBy_ok _

theorem raises_delete (channel : String) {ids : List String} (some_named : ids ≠ []) (s : Listed σ) :
    Raises (delete channel ids) s s.Strands := by
  unfold delete
  rw [if_neg (List.isEmpty_iff.not.mpr some_named)]
  refine raises_connected (fun _ => .bind fun _ => .bind fun raws => .bind fun doomed => ?_) s
  split
  · exact .bind fun _ => Action.failsBy_ok ()
  · exact Action.failsBy_ok ()

section

variable {τ : Type} [Textual τ] {messages : List (Message τ)}

/-- One of the messages that a call sends has no binary form, and there is a client, without which none would be
encoded. -/
def Unwritable (messages : List (Message τ)) (s : Listed σ) (fault : Fault) : Prop :=
  (connect s).1 = .ok (.ok ()) ∧ (stampAll s.ids messages).1.mapM Envelope.write = .error fault

theorem raises_send (channel : String) (messages : List (Message τ)) (s : Listed σ) :
    Raises (send channel messages) s fun fault => s.Strands fault ∨ s.Unwritable messages fault := by
  refine raises_of_connected fun opened connected => ?_
  have ids : opened.ids = s.ids := by
    have connecting := connect_cases s
    rw [connected] at connecting
    exact connecting.ids
  rw [← ids]
  cases written : (stampAll opened.ids messages).1.mapM Envelope.write with
  | error fault =>
    obtain ⟨drawn, stopped⟩ := encodeAll_of_unwritten written
    constructor <;> rw [Action.bind_state, Action.bind_of_error stopped]
    · exact fun other => by simp
    · exact fun _ same => nomatch same
  | ok raws =>
    have answers : Answers Ours (Action.reporting (transport "send" (some channel))
        (do onServer (ListClient.transaction (posting opened.settings.namespaceName channel raws))
            return .ok () : Action (Listed σ) (Outcome Unit))) :=
      FailsBy.reporting (.bind fun _ => Action.failsBy_ok ()) fun _ => rfl
    have encoded := encodeAll_of_written written
    obtain ⟨raised, failed⟩ :=
      raises_of_answers answers { opened with ids := (stampAll opened.ids messages).2 }
    constructor <;> rw [Action.bind_state, Action.bind_of_ok encoded]
    · exact fun fault => (raised fault).trans (by simp)
    · exact failed

/-- What cannot be written is not sent: but for what it takes to have a client, the server is left alone. -/
theorem send_of_unwritable {fault : Fault} (unwritable : s.Unwritable messages fault) (channel : String) :
    ∃ ids, (send channel messages s).2 = { (connect s).2 with ids } := by
  obtain ⟨done, failed⟩ := unwritable
  rcases connected : connect s with ⟨_, opened⟩
  rw [connected] at done
  cases done
  have connecting := connect_cases s
  rw [connected] at connecting
  obtain ⟨ids, stopped⟩ := encodeAll_of_unwritten (connecting.ids ▸ failed)
  have interrupted : send channel messages s = (.error fault, { opened with ids }) :=
    (Action.onSuccess_of_ok connected).trans ((Action.bind_of_ok rfl).trans (Action.bind_of_error stopped))
  rw [interrupted]
  exact ⟨ids, rfl⟩

end

/-- A message without a binary form is one that does not fit. -/
theorem unwritable_iff {messages : List Message} {fault : Fault} :
    s.Unwritable messages fault ↔ ((connect s).1 = .ok (.ok ()) ∧
      ∃ m ∈ (stampAll s.ids messages).1, ¬ Envelope.Fits m) ∧ fault = Envelope.wordFault := by
  rw [Unwritable, and_assoc]
  refine and_congr_right fun _ => ⟨fun failed => ?_, ?_⟩
  · obtain ⟨before, m, after, all, -, bad⟩ := Outcome.exists_of_mapM_eq_error failed
    have large : ¬ Envelope.Fits m := fun fits => by cases (Envelope.write_eq fits).symm.trans bad
    refine ⟨⟨m, all ▸ List.mem_append_right _ List.mem_cons_self, large⟩, ?_⟩
    exact Except.error.inj (bad.symm.trans (Envelope.write_of_not_fits large))
  · rintro ⟨⟨m, member, large⟩, rfl⟩
    cases written : (stampAll s.ids messages).1.mapM Envelope.write with
    | ok raws =>
      obtain ⟨raw, -, form⟩ := Outcome.exists_of_mapM_eq_ok written member
      cases form.symm.trans (Envelope.write_of_not_fits large)
    | error fault =>
      obtain ⟨_, other, _, -, -, bad⟩ := Outcome.exists_of_mapM_eq_error written
      by_cases fits : Envelope.Fits other
      · cases (Envelope.write_eq fits).symm.trans bad
      · rw [Except.error.inj (bad.symm.trans (Envelope.write_of_not_fits fits))]

end Listed

/-- The call sends a message that does not fit its binary form, and there is a client. -/
def Call.Unwritable {σ : Type} [ListClient σ] (s : Listed σ) : Call → Prop
  | send _ messages => (Listed.connect s).1 = .ok (.ok ()) ∧ ∃ m ∈ (stampAll s.ids messages).1, ¬ Envelope.Fits m
  | _ => False

theorem Call.raises {σ : Type} [ListClient σ] (call : Call) (s : Listed σ) :
    Raises (call.on listed) s fun fault =>
      call.needsClient = true ∧ (s.Strands fault ∨ call.Unwritable s ∧ fault = Envelope.wordFault) := by
  cases needs : call.needsClient with
  | false =>
    rw [Call.idle needs]
    exact (raises_of_answers (Action.answers_ok _) s).of_iff fun fault => by simp
  | true =>
    have some_given {names : List String} (needs : (!names.isEmpty) = true) : names ≠ [] := by
      rintro rfl
      cases needs
    have plain {α : Type} {act : Action (Listed σ) (Outcome α)} (raises : Raises act s s.Strands)
        {reply : α → Reply} : Raises (answering reply act) s fun fault =>
          true = true ∧ (s.Strands fault ∨ False ∧ fault = Envelope.wordFault) :=
      (raises.answering reply).of_iff fun fault => by simp
    cases call with
    | createChannels names => exact plain (Listed.raises_createChannels (some_given needs) s)
    | channels => exact plain (Listed.raises_channels s)
    | deleteChannels names => exact plain (Listed.raises_deleteChannels (some_given needs) s)
    | count channel => exact plain (Listed.raises_count channel s)
    | send channel messages =>
      refine ((Listed.raises_send channel messages s).answering _).of_iff fun fault => ?_
      rw [Listed.unwritable_iff]
      simp [Unwritable]
    | receive channel limit => exact plain (Listed.raises_receive channel limit s)
    | peek channel limit => exact plain (Listed.raises_peek channel limit s)
    | delete channel ids => exact plain (Listed.raises_delete channel (some_given needs) s)

/-- What gets out of a call on a server, whatever its client does. A call raises nothing but the fault of a client that
could neither be asked nor closed, and what stops the encoding of a message that it sends; every other call is
answered with a result or with a failure of the messenger. Texts with halves of characters have no binary form
either. What cannot be encoded is not sent. -/
theorem answered_unless_unwritable {σ : Type} [ListClient σ] (s : Listed σ) :
    (∀ call : Call, Raises (call.on listed) s fun fault =>
      call.needsClient = true ∧ (s.Strands fault ∨ call.Unwritable s ∧ fault = Envelope.wordFault)) ∧
    ∀ (τ : Type) [Textual τ] (channel : String) (messages : List (Message τ)),
      (Raises (Listed.send channel messages) s fun fault => s.Strands fault ∨ s.Unwritable messages fault) ∧
      ∀ fault, s.Unwritable messages fault →
        ∃ ids, (Listed.send channel messages s).2 = { (Listed.connect s).2 with ids } :=
  ⟨fun call => call.raises s, fun _ _ channel messages =>
    ⟨Listed.raises_send channel messages s, fun _ unwritable => Listed.send_of_unwritable unwritable channel⟩⟩

/-- A message that has been received so often that its count no longer fits. -/
def worn : Message := { content := [97], id := some "m1", received := 4294967296 }

/-- A client that does not answer, and then cannot be closed. -/
def abandoned : Listed (Unsteady ListServer) where
  settings := {}
  server :=
    { server := {}
      fates := [.carried, .undone (.raised .client "timed out"), .undone (.raised .client "already closed")] }

theorem answered_unless_unwritable_worn :
    (Call.on listed (.send "jobs" [worn]) ({ settings := {}, server := {} } : Listed ListServer)).1 =
        .error Envelope.wordFault ∧
      (∀ fault, (Call.on listed (.send "jobs" [{ worn with received := 4294967295 }])
        ({ settings := {}, server := {} } : Listed ListServer)).1 ≠ .error fault) ∧
      (Call.on listed .channels abandoned).1 = .error (.raised .client "already closed") ∧
      (Listed.send "jobs" [Envelope.halved] ({ settings := {}, server := {} } : Listed ListServer)).1 =
        .error (Text.halfFault [.half 0xd800]) := by
  obtain ⟨calls, sends⟩ := answered_unless_unwritable ({ settings := {}, server := {} } : Listed ListServer)
  obtain ⟨stranded, -⟩ := answered_unless_unwritable abandoned
  have large : ¬ Envelope.Fits worn := fun fits => absurd fits.received (by decide)
  have steady {fault : Fault} : ¬ Listed.Strands ({ settings := {}, server := {} } : Listed ListServer) fault :=
    fun strands => Listed.not_ready_of_strands ListServer.lawful strands trivial
  refine ⟨((calls _).raised _).mpr ⟨rfl, .inr ⟨⟨by rfl, worn, List.mem_singleton_self worn, large⟩, rfl⟩⟩, ?_, ?_, ?_⟩
  · intro fault interrupted
    obtain ⟨-, strands | ⟨⟨-, m, member, large⟩, -⟩⟩ := ((calls _).raised fault).mp interrupted
    · exact steady strands
    · cases List.mem_singleton.mp member
      exact large (by decide)
  · refine ((stranded _).raised _).mpr ⟨rfl, .inl ⟨_, _, _, _, _, ⟨by decide, rfl, rfl⟩, rfl, rfl, rfl⟩⟩
  · exact (((sends _ "jobs" [Envelope.halved]).1).raised _).mpr (.inr ⟨rfl, rfl⟩)

/-- A call is interrupted that sends a message of the type that messages have. -/
theorem send_interrupted_by_worn :
    ∃ fault later, Call.on listed (.send "jobs" [worn]) ({ settings := {}, server := {} } : Listed ListServer) =
      (.error fault, later) :=
  ⟨_, _, rfl⟩

end Depot.Messenger
