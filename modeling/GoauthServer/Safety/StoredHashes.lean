import GoauthServer.Service.Bootstrap
import GoauthServer.Service.Deployment

/-!
# Stored password hashes

A password hash is text that one function writes and another reads. `verify_encoded` says that
`verifyArgon2id` reads back what both encoders write: the separators do not occur in base64, and the parameters
are numbers that come back as they are.

For text that no encoder has written there is less to say. The reader takes parameters in any order and ignores
what it does not know, so that a parameter can be missing, and then it is zero, for which `argon2.IDKey` panics;
and the parallelism is cut to 8 bits without a word (`parameters_altered`). `stored_hash_safe_iff` says for which
text the arguments of `argon2.IDKey` are what is written, and are ones it accepts.
-/

namespace GoauthServer

open Base64

variable {v : ℕ} {encodedHash : String} {c : IdKeyCall}

/-! ### What the reader asks for -/

/-- What `verifyArgon2id` has when it calls `argon2.IDKey`. -/
structure IdKeyCall where
  salt : Bytes
  params : Argon2Params
  storedHash : Bytes
  deriving DecidableEq

/-- The key length it asks for. -/
def IdKeyCall.keyLen (c : IdKeyCall) : ℕ := c.storedHash.length % 2 ^ 32

/-- `verifyArgon2id` up to the call of `argon2.IDKey`. -/
def idKeyCall (encodedHash : String) : Except AuthError IdKeyCall :=
  match encodedHash.toList.splitOn '$' with
  | [_, scheme, _, params, salt, hash] =>
    if scheme ≠ "argon2id".toList then .error (.text "unsupported password hash format")
    else
      match readParams ⟨0, 0, 0⟩ (params.splitOn ',') with
      | .error e => .error e
      | .ok p =>
        match decode rawStd salt with
        | none => .error (.wrap "decoding hash salt" .base64)
        | some salt =>
          match decode rawStd hash with
          | none => .error (.wrap "decoding stored argon2id hash" .base64)
          | some storedHash => .ok ⟨salt, p, storedHash⟩
  | _ => .error (.text "unsupported password hash format")

/-- The rest is the call and the comparison. -/
theorem verifyArgon2id_eq (env : Env) (password encodedHash : String) :
    verifyArgon2id env password encodedHash = match idKeyCall encodedHash with
      | .error e => .error e
      | .ok c => (env.idKey password c.salt c.params c.keyLen).map fun computed => decide (computed = c.storedHash) := by
  unfold verifyArgon2id idKeyCall
  generalize encodedHash.toList.splitOn '$' = parts
  -- only a string of six parts is looked at
  rcases parts with _ | ⟨_, _ | ⟨scheme, _ | ⟨_, _ | ⟨params, _ | ⟨salt, _ | ⟨hash, _ | _⟩⟩⟩⟩⟩⟩ <;> try rfl
  dsimp only
  by_cases hscheme : scheme ≠ "argon2id".toList
  · rw [if_pos hscheme, if_pos hscheme]
  rw [if_neg hscheme, if_neg hscheme]
  cases readParams ⟨0, 0, 0⟩ (params.splitOn ',') with
  | error e => rfl
  | ok p =>
    dsimp only
    cases decode rawStd salt with
    | none => rfl
    | some salt =>
      dsimp only
      cases decode rawStd hash with
      | none => rfl
      | some storedHash =>
        dsimp only [IdKeyCall.keyLen]
        cases env.idKey password salt p (storedHash.length % 2 ^ 32) <;> rfl

/-! ### What the encoders write -/

theorem rawStd_lawful : rawStd.Lawful where
  value_digit n hn := by revert n; decide
  not_newline n hn := by revert n; decide
  not_dot n hn := by revert n; decide

theorem dollar_notMem_encode (bs : Bytes) : '$' ∉ encode rawStd bs :=
  notMem_of_decode (decode_encode rawStd_lawful bs) (by decide) (by decide)

/-- The parts of an encoded hash. -/
def encodedParts (salt hash : Bytes) : List (List Char) :=
  [[], "argon2id".toList, "v=19".toList, "m=65536,t=3,p=4".toList, encode rawStd salt, encode rawStd hash]

theorem splitOn_hashArgon2id (env : Env) (plain : String) (salt : Bytes) :
    (hashArgon2id env plain salt).toList.splitOn '$' =
      encodedParts salt (env.lib.idKey plain salt 3 65536 4 32) := by
  have hparts : (hashArgon2id env plain salt).toList =
      ['$'].intercalate (encodedParts salt (env.lib.idKey plain salt 3 65536 4 32)) := by
    unfold hashArgon2id encodedParts
    rw [String.toList_ofList]
    simp [List.intercalate]
  rw [hparts]
  refine List.splitOn_intercalate '$' ?_ (by simp [encodedParts])
  -- no part has a `$` in it
  intro part hpart
  simp only [encodedParts, List.mem_cons, List.not_mem_nil, or_false] at hpart
  rcases hpart with rfl | rfl | rfl | rfl | rfl | rfl
  · decide
  · decide
  · decide
  · decide
  · exact dollar_notMem_encode salt
  · exact dollar_notMem_encode _

theorem readParams_encoded :
    readParams ⟨0, 0, 0⟩ ("m=65536,t=3,p=4".toList.splitOn ',') = .ok ⟨65536, 3, 4⟩ := by
  decide +kernel

theorem idKeyCall_hashArgon2id (env : Env) (plain : String) (salt : Bytes) :
    idKeyCall (hashArgon2id env plain salt) =
      .ok ⟨salt, ⟨65536, 3, 4⟩, env.lib.idKey plain salt 3 65536 4 32⟩ := by
  unfold idKeyCall
  rw [splitOn_hashArgon2id]
  unfold encodedParts
  dsimp only
  rw [if_neg (not_not.mpr rfl), readParams_encoded]
  dsimp only
  rw [decode_encode rawStd_lawful salt]
  dsimp only
  rw [decode_encode rawStd_lawful]

/-- **Encoding and verification are inverse.** Under both encoders a password matches an encoded one exactly if
the two have the same key under the salt of the encoding; `argon2.IDKey` may be any function, so long as it
returns as many bytes as it is asked for. -/
theorem verify_encoded (env : Env) (p q : String) (salt : Bytes)
    (hlen : (env.lib.idKey p salt 3 65536 4 32).length = 32) :
    ∀ encode ∈ [hashArgon2id env, hashPasswordArgon2id env],
      verifyArgon2id env q (encode p salt) =
          .ok (decide (env.lib.idKey q salt 3 65536 4 32 = env.lib.idKey p salt 3 65536 4 32)) ∧
        verifyArgon2id env p (encode p salt) = .ok true := by
  have hkeyLen : (IdKeyCall.mk salt ⟨65536, 3, 4⟩ (env.lib.idKey p salt 3 65536 4 32)).keyLen = 32 := by
    simp [IdKeyCall.keyLen, hlen]
  have hverify : ∀ q, verifyArgon2id env q (hashArgon2id env p salt) =
      .ok (decide (env.lib.idKey q salt 3 65536 4 32 = env.lib.idKey p salt 3 65536 4 32)) := by
    intro q
    rw [verifyArgon2id_eq, idKeyCall_hashArgon2id]
    dsimp only
    rw [hkeyLen]
    rfl
  intro encode hmem
  -- the bootstrap has its own copy of the encoder
  have henc : encode p salt = hashArgon2id env p salt := by
    simp only [List.mem_cons, List.not_mem_nil, or_false] at hmem
    rcases hmem with rfl | rfl <;> rfl
  rw [henc]
  refine ⟨hverify q, ?_⟩
  rw [hverify p, decide_eq_true rfl]

/-- The deployment with a key function that returns as many bytes as it is asked for. -/
def keyEnv : Env :=
  { Deployment.env with
    lib := { Deployment.lib with
      idKey := fun password salt _ _ _ keyLen => (asciiBytes password ++ salt ++ List.replicate keyLen 0).take keyLen } }

theorem verify_encoded_ann :
    verifyArgon2id keyEnv "correct horse" (hashArgon2id keyEnv "correct horse" (List.replicate 16 7)) = .ok true ∧
      verifyArgon2id keyEnv "battery staple" (hashArgon2id keyEnv "correct horse" (List.replicate 16 7)) =
        .ok false := by
  have h := fun q => verify_encoded keyEnv "correct horse" q (List.replicate 16 7) (by decide +kernel)
    (hashArgon2id keyEnv) List.mem_cons_self
  refine ⟨(h "").2, (h "battery staple").1.trans ?_⟩
  decide +kernel

/-! ### Parameters -/

/-- A parameter, if the reader can read it: its key and its value. -/
def paramOf (kv : List Char) : Option (List Char × ℕ) :=
  match Text.splitFirst '=' kv with
  | (_, none) => none
  | (key, some value) => (Text.parseUint 32 value).map fun v => (key, v)

/-- Take over one parameter. -/
def Argon2Params.set (acc : Argon2Params) (kv : List Char × ℕ) : Argon2Params :=
  if kv.1 = "m".toList then { acc with memory := kv.2 }
  else if kv.1 = "t".toList then { acc with iterations := kv.2 }
  else if kv.1 = "p".toList then { acc with parallelism := kv.2 % 256 }
  else acc

/-- The numbers that are written for a key, each as it stands there. -/
def writtenValues (key : String) (segment : List Char) : List ℕ :=
  (segment.splitOn ',').filterMap fun kv =>
    match Text.splitFirst '=' kv with
    | (k, some value) => if k = key.toList then Text.digits 0 value else none
    | (_, none) => none

theorem readParam_eq (acc : Argon2Params) (kv : List Char) :
    (∃ text, paramOf kv = none ∧ readParam acc kv = .error (.text text)) ∨
      ∃ p, paramOf kv = some p ∧ readParam acc kv = .ok (acc.set p) := by
  unfold paramOf readParam Argon2Params.set
  rcases Text.splitFirst '=' kv with ⟨key, _ | value⟩
  · exact Or.inl ⟨_, rfl, rfl⟩
  · dsimp only
    cases Text.parseUint 32 value with
    | none => exact Or.inl ⟨_, rfl, rfl⟩
    | some v =>
      refine Or.inr ⟨(key, v), rfl, ?_⟩
      dsimp only
      split
      · rfl
      · split
        · rfl
        · split <;> rfl

/-- **The loop.** It succeeds if every parameter can be read, and then it has taken over one after the other. -/
theorem readParams_ok {acc p : Argon2Params} {kvs : List (List Char)} (h : readParams acc kvs = .ok p) :
    ∃ ps : List (List Char × ℕ), kvs.map paramOf = ps.map some ∧ p = ps.foldl Argon2Params.set acc := by
  induction kvs generalizing acc with
  | nil => exact ⟨[], rfl, (Except.ok.inj h).symm⟩
  | cons kv kvs ih =>
    rw [readParams] at h
    rcases readParam_eq acc kv with ⟨e, _, he⟩ | ⟨q, hq, hok⟩
    · rw [he] at h
      cases h
    · rw [hok] at h
      obtain ⟨ps, hps, rfl⟩ := ih h
      exact ⟨q :: ps, by rw [List.map_cons, hq, hps, List.map_cons], rfl⟩

/-- The values of a key among the parameters that were read. -/
def valuesOf (key : String) (ps : List (List Char × ℕ)) : List ℕ :=
  ps.filterMap fun kv => if kv.1 = key.toList then some kv.2 else none

theorem parseUint_digits {bits : ℕ} {value : List Char} (h : Text.parseUint bits value = some v) :
    Text.digits 0 value = some v := by
  unfold Text.parseUint at h
  split at h
  · cases h
  · obtain ⟨n, hn, hv⟩ := Option.bind_eq_some_iff.mp h
    split at hv
    · rw [hn, Option.some.inj hv]
    · cases hv

theorem valuesOf_cons (key : String) (kv : List Char × ℕ) (ps : List (List Char × ℕ)) :
    valuesOf key (kv :: ps) = if kv.1 = key.toList then kv.2 :: valuesOf key ps else valuesOf key ps := by
  unfold valuesOf
  rw [List.filterMap_cons]
  split <;> rename_i h <;> split at h <;> simp_all

/-- They are the values that are written. -/
theorem writtenValues_eq {segment : List Char} {ps : List (List Char × ℕ)}
    (h : (segment.splitOn ',').map paramOf = ps.map some) (key : String) :
    writtenValues key segment = valuesOf key ps := by
  unfold writtenValues
  generalize segment.splitOn ',' = kvs at h
  induction kvs generalizing ps with
  | nil =>
    obtain rfl := List.map_eq_nil_iff.mp h.symm
    rfl
  | cons kv kvs ih =>
    cases ps with
    | nil => cases h
    | cons p ps =>
      obtain ⟨hp, hps⟩ := List.cons.inj h
      rw [valuesOf_cons, List.filterMap_cons, ih hps]
      unfold paramOf at hp
      generalize Text.splitFirst '=' kv = parts at hp ⊢
      rcases parts with ⟨k, _ | value⟩
      · cases hp
      · obtain ⟨v, hv, rfl⟩ := Option.map_eq_some_iff.mp hp
        dsimp only
        by_cases hkey : k = key.toList
        · rw [if_pos hkey, if_pos hkey, parseUint_digits hv]
        · rw [if_neg hkey, if_neg hkey]

/-- **The last value counts**, and where there is none, what was there before. -/
theorem foldl_set (ps : List (List Char × ℕ)) (acc : Argon2Params) : ps.foldl Argon2Params.set acc =
      ⟨(valuesOf "m" ps).getLastD acc.memory, (valuesOf "t" ps).getLastD acc.iterations,
        ((valuesOf "p" ps).map (· % 256)).getLastD acc.parallelism⟩ := by
  induction ps generalizing acc with
  | nil => rfl
  | cons kv ps ih =>
    have hmt : "m".toList ≠ "t".toList := by decide
    have hmp : "m".toList ≠ "p".toList := by decide
    have htp : "t".toList ≠ "p".toList := by decide
    rw [List.foldl_cons, ih, valuesOf_cons, valuesOf_cons, valuesOf_cons]
    unfold Argon2Params.set
    by_cases hm : kv.1 = "m".toList
    · simp only [hm, if_pos, if_neg hmt, if_neg hmp, List.getLastD_cons]
    by_cases ht : kv.1 = "t".toList
    · simp only [ht, if_neg hmt.symm, if_pos, if_neg htp, List.getLastD_cons]
    by_cases hp : kv.1 = "p".toList
    · simp only [hp, if_neg hmp.symm, if_neg htp.symm, if_pos, List.map_cons, List.getLastD_cons]
    · simp only [if_neg hm, if_neg ht, if_neg hp]

/-- The string writes the number `v` for the key, and no other. -/
def WritesParam (segment : List Char) (key : String) (v : ℕ) : Prop :=
  writtenValues key segment ≠ [] ∧ ∀ x ∈ writtenValues key segment, x = v

instance (segment : List Char) (key : String) (v : ℕ) : Decidable (WritesParam segment key v) :=
  inferInstanceAs (Decidable (_ ∧ _))

theorem getLastD_of_forall {l : List ℕ} (hne : l ≠ []) (h : ∀ x ∈ l, x = v) (d : ℕ) : l.getLastD d = v := by
  rw [List.getLastD_eq_getLast?, List.getLast?_eq_some_getLast hne]
  exact h _ (List.getLast_mem hne)

/-! ### Safe calls -/

/-- The parameter segment of a stored hash. -/
def paramSegment (encodedHash : String) : List Char := (encodedHash.toList.splitOn '$').getD 3 []

/-- `argon2.IDKey` accepts the arguments, and they are the numbers that are written. -/
structure IdKeyCall.Safe (c : IdKeyCall) (segment : List Char) : Prop where
  iterations : 1 ≤ c.params.iterations
  parallelism : 1 ≤ c.params.parallelism
  keyLen : 1 ≤ c.keyLen
  memoryWritten : WritesParam segment "m" c.params.memory
  iterationsWritten : WritesParam segment "t" c.params.iterations
  parallelismWritten : WritesParam segment "p" c.params.parallelism

/-- The segment writes one number for each of the three parameters: for `t` one that is not zero, and for `p` one
that is not zero and fits in 8 bits. The stored hash is not empty. -/
structure IdKeyCall.WellWritten (c : IdKeyCall) (segment : List Char) : Prop where
  memory : ∃ v, WritesParam segment "m" v
  iterations : ∃ v, 1 ≤ v ∧ WritesParam segment "t" v
  parallelism : ∃ v, 1 ≤ v ∧ v ≤ 255 ∧ WritesParam segment "p" v
  keyLen : 1 ≤ c.keyLen

/-- The parameters of a call, by what is written. -/
theorem idKeyCall_params (h : idKeyCall encodedHash = .ok c) : c.params =
      ⟨(writtenValues "m" (paramSegment encodedHash)).getLastD 0,
        (writtenValues "t" (paramSegment encodedHash)).getLastD 0,
        ((writtenValues "p" (paramSegment encodedHash)).map (· % 256)).getLastD 0⟩ := by
  unfold idKeyCall at h
  unfold paramSegment
  split at h
  · next scheme _ params salt hash hparts =>
    rw [hparts]
    split at h
    · cases h
    split at h
    · cases h
    next p hread =>
    split at h
    · cases h
    split at h
    · cases h
    obtain ⟨ps, hps, rfl⟩ := readParams_ok hread
    rw [← Except.ok.inj h, foldl_set]
    show _ = Argon2Params.mk ((writtenValues "m" params).getLastD 0) ((writtenValues "t" params).getLastD 0)
      (((writtenValues "p" params).map (· % 256)).getLastD 0)
    rw [writtenValues_eq hps, writtenValues_eq hps, writtenValues_eq hps]
  · cases h

theorem WritesParam.memory (h : idKeyCall encodedHash = .ok c)
    (hv : WritesParam (paramSegment encodedHash) "m" v) : c.params.memory = v := by
  rw [idKeyCall_params h]
  exact getLastD_of_forall hv.1 hv.2 0

theorem WritesParam.iterations (h : idKeyCall encodedHash = .ok c)
    (hv : WritesParam (paramSegment encodedHash) "t" v) : c.params.iterations = v := by
  rw [idKeyCall_params h]
  exact getLastD_of_forall hv.1 hv.2 0

theorem WritesParam.parallelism (h : idKeyCall encodedHash = .ok c)
    (hv : WritesParam (paramSegment encodedHash) "p" v) : c.params.parallelism = v % 256 := by
  rw [idKeyCall_params h]
  refine getLastD_of_forall (mt List.map_eq_nil_iff.mp hv.1) (fun x hx => ?_) 0
  obtain ⟨y, hy, rfl⟩ := List.mem_map.mp hx
  rw [hv.2 y hy]

theorem IdKeyCall.safe_iff (h : idKeyCall encodedHash = .ok c) :
    c.Safe (paramSegment encodedHash) ↔ c.WellWritten (paramSegment encodedHash) := by
  constructor
  · intro hsafe
    -- a number that is its own remainder is less than 256
    have hcut := hsafe.parallelismWritten.parallelism h
    have hlt := Nat.mod_lt c.params.parallelism (show 256 > 0 by decide)
    exact ⟨⟨_, hsafe.memoryWritten⟩, ⟨_, hsafe.iterations, hsafe.iterationsWritten⟩,
      ⟨_, hsafe.parallelism, by omega, hsafe.parallelismWritten⟩, hsafe.keyLen⟩
  · rintro ⟨⟨m, hm⟩, ⟨t, ht1, ht⟩, ⟨p, hp1, hp255, hp⟩, hkey⟩
    have hpar : c.params.parallelism = p := by
      rw [hp.parallelism h]
      exact Nat.mod_eq_of_lt (by omega)
    refine ⟨?_, ?_, hkey, ?_, ?_, ?_⟩
    · rwa [ht.iterations h]
    · rwa [hpar]
    · rwa [hm.memory h]
    · rwa [ht.iterations h]
    · rwa [hpar]

/-! What stops the reader before the call is an error, not a panic. -/

theorem readParams_ne_panic (acc : Argon2Params) (kvs : List (List Char)) :
    readParams acc kvs ≠ .error .panic := by
  induction kvs generalizing acc with
  | nil => exact nofun
  | cons kv kvs ih =>
    rw [readParams]
    rcases readParam_eq acc kv with ⟨text, _, he⟩ | ⟨q, _, hok⟩
    · rw [he]
      exact nofun
    · rw [hok]
      exact ih _

theorem idKeyCall_ne_panic (encodedHash : String) : idKeyCall encodedHash ≠ .error .panic := by
  unfold idKeyCall
  split
  · split
    · exact nofun
    split
    · next e he =>
      intro h
      rw [Except.error.inj h] at he
      exact readParams_ne_panic _ _ he
    split
    · exact nofun
    split <;> exact nofun
  · exact nofun

/-- **Stored hashes.** For every password and every string, `verifyArgon2id` ends with an error or calls
`argon2.IDKey` with arguments that it accepts and that are the numbers written in the string, exactly if the
parameters of a string that is read to its end are well written. -/
theorem stored_hash_safe_iff (env : Env) (password encodedHash : String) :
    ((∃ e, e ≠ .panic ∧ idKeyCall encodedHash = .error e ∧
        verifyArgon2id env password encodedHash = .error e) ∨
      ∃ c, idKeyCall encodedHash = .ok c ∧ c.Safe (paramSegment encodedHash) ∧
        verifyArgon2id env password encodedHash =
          .ok (decide (env.lib.idKey password c.salt c.params.iterations c.params.memory c.params.parallelism
            c.keyLen = c.storedHash))) ↔
      ∀ c, idKeyCall encodedHash = .ok c → c.WellWritten (paramSegment encodedHash) := by
  rw [verifyArgon2id_eq]
  cases hcall : idKeyCall encodedHash with
  | error e =>
    refine iff_of_true (Or.inl ⟨e, ?_, rfl, rfl⟩) fun c hc => (by cases hc)
    rintro rfl
    exact idKeyCall_ne_panic encodedHash hcall
  | ok c =>
    constructor
    · rintro (⟨e, _, he, _⟩ | ⟨c', hc', hsafe, _⟩) c'' hc''
      · cases he
      · cases hc'
        cases hc''
        exact (IdKeyCall.safe_iff hcall).mp hsafe
    · intro hwell
      have hsafe := (IdKeyCall.safe_iff hcall).mpr (hwell c rfl)
      refine Or.inr ⟨c, rfl, hsafe, ?_⟩
      have haccepted : ¬ (c.params.iterations < 1 ∨ c.params.parallelism < 1 ∨ c.keyLen < 1) := by
        have hsafe' := And.intro hsafe.iterations (And.intro hsafe.parallelism hsafe.keyLen)
        omega
      dsimp only [Env.idKey]
      rw [if_neg haccepted]
      rfl

/-- **Parameters are altered, or missing.** The first string asks for 257 threads and gets one. The second does
not say how many rounds there are to be, and `argon2.IDKey` panics. -/
theorem parameters_altered :
    (idKeyCall "$argon2id$v=19$m=8,t=1,p=257$c2FsdHNhbHQ$7FchzA").map (fun c => c.params) = .ok ⟨8, 1, 1⟩ ∧
      verifyArgon2id Deployment.env "correct horse" "$argon2id$v=19$m=8,t=1,p=257$c2FsdHNhbHQ$7FchzA" = .ok true ∧
      verifyArgon2id Deployment.env "correct horse" "$argon2id$v=19$m=8,p=1$c2FsdHNhbHQ$7FchzA" =
        .error .panic := by
  decide +kernel

end GoauthServer
