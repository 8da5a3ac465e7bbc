-- SUMMARY: What becomes of the encoded fields of a request to create a session, from the controller that encodes them to the session.
import Dpsa4fl.JanusManager.AnswerSpecs
import Dpsa4fl.JanusManager.Consumer

/-!
# The wire format of a session

`JanusManagerClient::create_session` encodes a verify key and two tokens, and
`handle_create_session` decodes two of the three. It takes the third, the token
of the leader, as the bytes of the encoded string.
-/

open Handler

/-- What the crate relies on: the bytes of a bearer token are those it was created from. -/
def Janus.KeepsTokens (J : Janus) : Prop :=
  ∀ {bytes token}, J.newBearerTokenFromBytes bytes = .ok token → token.asRef = bytes

theorem Janus.plain_keepsTokens : Janus.plain.KeepsTokens := by
  intro bytes token h
  simp only [Janus.plain] at h
  split at h
  · cases h
    rfl
  · cases h

/-- Unpadded base64url. -/
def Base64Url.Valid (s : String) : Prop := ∃ bytes, decode s = .ok bytes

/-- The session has the values of this controller, with these bytes for the
token of the leader. -/
structure TrainingSession.HasValues (session : TrainingSession) (client : JanusManagerClient)
    (verifyKey : SecretBytes) (role : Role) (leaderToken : List UInt8) : Prop where
  role : session.role = role
  verifyKey : session.verifyKey = verifyKey
  collectorAuthToken : session.collectorAuthToken.asRef = client.collectorAuthToken.asRef
  leaderAuthToken : session.leaderAuthToken.asRef = leaderToken
  collectorHpkeConfig : session.collectorHpkeConfig = client.hpkeKeypair.config
  vdafParameter : session.vdafParameter = client.vdafParameter

namespace CreateTrainingSessionRequest

def leaderAuthTokenBytes (request : CreateTrainingSessionRequest) : List UInt8 :=
  request.leaderAuthTokenEncoded.toUTF8.data.toList

/-- Everything that `handle_create_session` asks of a request, of its random
choices and of the state of the manager. -/
structure Admissible (J : Janus) (ω : Ambient) (p : TaskProvisioner)
    (request : CreateTrainingSessionRequest) : Prop where
  id : ∀ id, request.trainingSessionId = some id → p.trainingSessions.lookup id = none
  collectorAuthToken : ∃ bytes token,
    Base64Url.decode request.collectorAuthTokenEncoded = .ok bytes ∧
      J.newBearerTokenFromBytes bytes = .ok token
  leaderAuthToken : ∃ token, J.newBearerTokenFromBytes request.leaderAuthTokenBytes = .ok token
  verifyKey : Base64Url.Valid request.verifyKeyEncoded
  keypair : ∃ pair, p.keyring.fetchKeypair J ω.keypairSeed ω.keypairId = .ok pair

/-- Some encoded field is not unpadded base64url. -/
def HasInvalidField (request : CreateTrainingSessionRequest) : Prop :=
  ¬Base64Url.Valid request.verifyKeyEncoded ∨
    ¬Base64Url.Valid request.collectorAuthTokenEncoded ∨
    ¬Base64Url.Valid request.leaderAuthTokenEncoded

end CreateTrainingSessionRequest

section
variable {J : Janus} {ω : Ambient} {p p' : TaskProvisioner} {request : CreateTrainingSessionRequest}

theorem createSessionSecrets_eq_ok {secrets : SessionSecrets} :
    createSessionSecrets J request = .ok secrets ↔
      (∃ bytes, Base64Url.decode request.collectorAuthTokenEncoded = .ok bytes ∧
        J.newBearerTokenFromBytes bytes = .ok secrets.collectorAuthToken) ∧
      J.newBearerTokenFromBytes request.leaderAuthTokenBytes = .ok secrets.leaderAuthToken ∧
      Base64Url.decode request.verifyKeyEncoded = .ok secrets.verifyKey := by
  obtain ⟨collectorAuthToken, leaderAuthToken, verifyKey⟩ := secrets
  unfold createSessionSecrets CreateTrainingSessionRequest.leaderAuthTokenBytes
  cases Base64Url.decode request.collectorAuthTokenEncoded with
  | error e => simp [Except.mapError, bind, Except.bind]
  | ok bytes =>
    cases hcollector : J.newBearerTokenFromBytes bytes with
    | error e => simp [hcollector, Except.mapError, bind, Except.bind]
    | ok token =>
      cases J.newBearerTokenFromBytes request.leaderAuthTokenEncoded.toUTF8.data.toList with
      | error e => simp [hcollector, Except.mapError, bind, Except.bind]
      | ok token' =>
        cases Base64Url.decode request.verifyKeyEncoded with
        | error e => simp [hcollector, Except.mapError, bind, Except.bind]
        | ok key => simp [hcollector, Except.mapError, bind, Except.bind, pure, Except.pure]

theorem handleCreateSession_ok {id : TrainingSessionId}
    (h : (handleCreateSession J ω request).run p = .ok id p') :
    request.Admissible J ω p ∧ ∃ secrets keypair, createSessionSecrets J request = .ok secrets ∧
      p'.trainingSessions.lookup id = some (request.session secrets keypair) := by
  simp only [handleCreateSession, run_bind_ok] at h
  obtain ⟨⟨k, secrets⟩, p₁, hstart, session, p₂, hkey, hinsert⟩ := h
  obtain ⟨rfl, hsecrets, hid⟩ := createSessionStart_ok hstart
  obtain ⟨-, keypair, rfl⟩ := createSessionKeypair_ok hkey
  cases hinsert
  obtain ⟨⟨bytes, hbytes, htoken⟩, hleader, hverify⟩ := createSessionSecrets_eq_ok.mp hsecrets
  have hfetch : ∃ pair, p₁.keyring.fetchKeypair J ω.keypairSeed ω.keypairId = .ok pair := by
    simp only [createSessionKeypair, run_bind_ok, EStateM.run_get, run_lift_ok] at hkey
    obtain ⟨_, _, hget, pair, _, ⟨hpair, -⟩, -⟩ := hkey
    cases hget
    exact ⟨pair, hpair⟩
  refine ⟨⟨?_, ⟨bytes, _, hbytes, htoken⟩, ⟨_, hleader⟩, ⟨_, hverify⟩, hfetch⟩, secrets, keypair,
    hsecrets, AList.lookup_insert _⟩
  intro k' hk'
  rcases hid with ⟨hsome, hfree⟩ | ⟨hnone, -⟩
  · cases hsome.symm.trans hk'
    exact hfree
  · cases hnone.symm.trans hk'

theorem handleCreateSession_of_admissible (h : request.Admissible J ω p) :
    ∃ id p', (handleCreateSession J ω request).run p = .ok id p' := by
  obtain ⟨bytes, collectorAuthToken, hbytes, hcollector⟩ := h.collectorAuthToken
  obtain ⟨leaderAuthToken, hleader⟩ := h.leaderAuthToken
  obtain ⟨verifyKey, hverify⟩ := h.verifyKey
  have hsecrets : createSessionSecrets J request =
      .ok ⟨collectorAuthToken, leaderAuthToken, verifyKey⟩ :=
    createSessionSecrets_eq_ok.mpr ⟨⟨bytes, hbytes, hcollector⟩, hleader, hverify⟩
  obtain ⟨id, hstart⟩ := createSessionStart_of_free (ω := ω) hsecrets h.id
  obtain ⟨keypair, p', hrun, -⟩ := handleCreateSession_of_start h.keypair hstart
  exact ⟨id, p', hrun⟩

theorem handleCreateSession_error_iff :
    (∃ failure p', (handleCreateSession J ω request).run p = .error failure p') ↔
      ¬request.Admissible J ω p := by
  cases hrun : (handleCreateSession J ω request).run p with
  | ok id p' => simp [(handleCreateSession_ok hrun).1]
  | error failure p' =>
    refine ⟨fun _ hadmissible => ?_, fun _ => ⟨failure, p', rfl⟩⟩
    obtain ⟨id, p₁, hok⟩ := handleCreateSession_of_admissible hadmissible
    cases hok.symm.trans hrun

/-- The session holds the values of the controller, but for the token of the
leader, which is made of the bytes of its encoding. -/
theorem handleCreateSession_hasValues (hJ : J.KeepsTokens) {client : JanusManagerClient}
    {verifyKey : SecretBytes} {role : Role} {requested : Option TrainingSessionId}
    {id : TrainingSessionId}
    (h : (handleCreateSession J ω (client.makeRequest verifyKey role requested)).run p =
      .ok id p') :
    ∃ session, p'.trainingSessions.lookup id = some session ∧
      session.HasValues client verifyKey role
        (Base64Url.encode client.leaderAuthToken.asRef).toUTF8.data.toList := by
  obtain ⟨-, secrets, keypair, hsecrets, hlookup⟩ := handleCreateSession_ok h
  obtain ⟨⟨bytes, hbytes, htoken⟩, hleader, hverify⟩ := createSessionSecrets_eq_ok.mp hsecrets
  simp only [JanusManagerClient.makeRequest, Base64Url.decode_encode, Except.ok.injEq]
    at hbytes hverify
  subst hbytes
  exact ⟨_, hlookup, rfl, hverify.symm, hJ htoken, hJ hleader, rfl, rfl⟩

/-- The wire format of a session, for every controller, verify key and request.
An accepted request of a controller leads to a session with its values, except
that the token of the leader stays encoded; only an empty token is its own
encoding. A request with an invalid field is rejected, unless the only one is
the token of the leader and the request is admissible otherwise. -/
theorem createSession_wire_format (hJ : J.KeepsTokens) :
    (∀ (ω : Ambient) (p p' : TaskProvisioner) (client : JanusManagerClient)
      (verifyKey : SecretBytes) (role : Role) (requested : Option TrainingSessionId)
      (id : TrainingSessionId),
      (handleCreateSession J ω (client.makeRequest verifyKey role requested)).run p = .ok id p' →
        ∃ session, p'.trainingSessions.lookup id = some session ∧
          session.HasValues client verifyKey role
            (Base64Url.encode client.leaderAuthToken.asRef).toUTF8.data.toList ∧
          (session.HasValues client verifyKey role client.leaderAuthToken.asRef ↔
            client.leaderAuthToken.asRef = [])) ∧
    ∀ (ω : Ambient) (p : TaskProvisioner) (request : CreateTrainingSessionRequest),
      (request.HasInvalidField →
        ∃ failure p', (handleCreateSession J ω request).run p = .error failure p') ↔
      (Base64Url.Valid request.leaderAuthTokenEncoded ∨ ¬request.Admissible J ω p) := by
  refine ⟨?_, ?_⟩
  · intro ω p p' client verifyKey role requested id h
    obtain ⟨session, hlookup, hvalues⟩ := handleCreateSession_hasValues hJ h
    refine ⟨session, hlookup, hvalues, fun hdecoded => ?_, fun hempty => ?_⟩
    · exact Base64Url.toUTF8_encode_eq_iff.mp
        (hvalues.leaderAuthToken.symm.trans hdecoded.leaderAuthToken)
    · rwa [Base64Url.toUTF8_encode_eq_iff.mpr hempty] at hvalues
  · intro ω p request
    rw [handleCreateSession_error_iff]
    constructor
    · intro h
      by_cases hleader : Base64Url.Valid request.leaderAuthTokenEncoded
      · exact .inl hleader
      · exact .inr (h (.inr (.inr hleader)))
    · rintro (hleader | hadmissible) hinvalid
      · intro hadmissible
        obtain ⟨bytes, _, hbytes, -⟩ := hadmissible.collectorAuthToken
        rcases hinvalid with hverify | hcollector | hleader'
        · exact hverify hadmissible.verifyKey
        · exact hcollector ⟨bytes, hbytes⟩
        · exact hleader' hleader
      · exact hadmissible

end

namespace Sample

def badKeyRequest : CreateTrainingSessionRequest :=
  { createRequest none [] with verifyKeyEncoded := "=" }

theorem badKeyRequest_rejected :
    ∃ failure p', (handleCreateSession .plain (ambient 0) badKeyRequest).run (.new ∅ config) =
      .error failure p' :=
  ((createSession_wire_format Janus.plain_keepsTokens).2 (ambient 0) (.new ∅ config)
    badKeyRequest).mpr (.inl ⟨_, rfl⟩) (.inl (by rintro ⟨_, ⟨⟩⟩))

/-- The token "a" of the leader becomes "YQ" on the way to the session. -/
theorem leaderToken_stays_encoded :
    ∃ id p', (handleCreateSession .plain (ambient 0)
        (client.makeRequest (client.verifyKey .plain fun _ => 0) .leader none)).run
        (.new ∅ config) = .ok id p' ∧
      ∀ session, p'.trainingSessions.lookup id = some session →
        ¬session.HasValues client (client.verifyKey .plain fun _ => 0) .leader
          client.leaderAuthToken.asRef := by
  have hadmissible :
      (client.makeRequest (client.verifyKey .plain fun _ => 0) .leader none).Admissible .plain
        (ambient 0) (.new ∅ config) :=
    { id := by rintro _ ⟨⟩
      collectorAuthToken := ⟨_, _, Base64Url.decode_encode _, rfl⟩
      leaderAuthToken := ⟨.bearer [89, 81], by decide⟩
      verifyKey := ⟨_, Base64Url.decode_encode _⟩
      keypair := ⟨_, rfl⟩ }
  obtain ⟨id, p', hrun⟩ := handleCreateSession_of_admissible hadmissible
  obtain ⟨session, hlookup, hvalues⟩ := handleCreateSession_hasValues Janus.plain_keepsTokens hrun
  refine ⟨id, p', hrun, ?_⟩
  rintro _ hsession hdecoded
  cases hlookup.symm.trans hsession
  have hsame := Base64Url.toUTF8_encode_eq_iff.mp
    (hvalues.leaderAuthToken.symm.trans hdecoded.leaderAuthToken)
  cases hsame

end Sample
