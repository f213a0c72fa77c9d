/-
# Kis.CacheKeys — which configurations share a key

The token coordinator, the market data client and the account client keep their entries in one
store. `Use` is what a client keeps under a key: its token, the refresh lock, the price or the
daily candles of a stock, its holdings. `Separated` says of two clients that two of their keys
are equal only if they stand for the same thing of the same credentials, and then neither reads
what the other keeps for other credentials.

The account triple is determined by its identity. The identity of the token credentials is
`scope:app_key`, and both fields are free: `keys_separated_iff` says that two clients are
separated exactly if their credentials do not differ by a colon that moved from the one field
to the other (`Shifted`). The digest is taken to be injective on the identities of the two.
-/
import KisAutoTrading.Theory.Joins
import KisAutoTrading.Infrastructure.KisDomesticAccount

namespace KisAutoTrading.Kis.CacheKeys

open Theory

set_option autoImplicit false

/-- The credentials of a client, as the constructors admit them. -/
structure Configuration where
  credentials : KisTokenCredentials
  accountCredentials : KisAccountCredentials
  admitted : accountCredentials.validate = .ok accountCredentials

/-- The first 16 digits of the digest. -/
def shortDigest (P : Platform) (text : String) : String :=
  String.ofList ((P.sha256 text).toList.take 16)

/-- The texts of which a client takes the digest. -/
def tokenIdentity (credentials : KisTokenCredentials) : String :=
  credentials.scope ++ (":" ++ credentials.appKey)

def accountIdentity (credentials : KisAccountCredentials) : String :=
  credentials.environment ++
    (":" ++ (credentials.accountNumber ++ (":" ++ credentials.accountProductCode)))

namespace Configuration

variable (J : JsonModule) (P : Platform) (own : Configuration)

def market : KisMarketDataClient := ⟨J, P, own.credentials⟩

def account : KisDomesticAccountClient := ⟨J, P, own.accountCredentials⟩

def identities : Set String := {tokenIdentity own.credentials, accountIdentity own.accountCredentials}

end Configuration

/-- What a client keeps under a key. -/
inductive Use where
  | token
  | refreshLock
  | price (stockCode : String)
  | dailyCandles (stockCode : String)
  | holdings
  deriving DecidableEq

namespace Use

/-- The stock codes that the market data client accepts. -/
def Accepted : Use → Prop
  | price stockCode => isStockCode stockCode = true
  | dailyCandles stockCode => isStockCode stockCode = true
  | _ => True

/-- The key, without the prefix of the store. -/
def key (J : JsonModule) (P : Platform) (own : Configuration) : Use → String
  | token => P.tokenCacheKey own.credentials
  | refreshLock => P.refreshLockKey own.credentials
  | price stockCode => ((own.market J P).priceCache stockCode).key
  | dailyCandles stockCode => ((own.market J P).dailyCache stockCode).key
  | holdings => (own.account J P).holdingsCache.key

/-- The credentials that the use depends on are those of the other client. -/
def SameCredentials (own other : Configuration) : Use → Prop
  | holdings => own.accountCredentials = other.accountCredentials
  | _ => own.credentials.scope = other.credentials.scope ∧
      own.credentials.appKey = other.credentials.appKey

end Use

section Spec

variable (J : JsonModule) (P : Platform) (own other : Configuration)

/-- What is promised of two clients on one store. -/
structure Separated : Prop where
  keys : ∀ use use' : Use, use.Accepted → use'.Accepted →
    use.key J P own = use'.key J P other → use = use' ∧ use.SameCredentials own other
  reads : ∀ use use' : Use, use.Accepted → use'.Accepted →
    ¬ (use = use' ∧ use.SameCredentials own other) →
    ∀ value ttlSeconds now store after,
      KeyValueStore.set (use'.key J P other) value ttlSeconds now store = .ok after →
      ∀ later, KeyValueStore.get (use.key J P own) later after =
        KeyValueStore.get (use.key J P own) later store

/-- A colon stands at another place: the text around it moved from the one field to the other. -/
def Shifted (first second : KisTokenCredentials) : Prop :=
  ∃ middle, second.scope = first.scope ++ (":" ++ middle) ∧
    first.appKey = middle ++ (":" ++ second.appKey)

end Spec

/-! ## The identities -/

theorem tokenIdentity_eq_iff {first second : KisTokenCredentials} :
    tokenIdentity first = tokenIdentity second ↔
      (first.scope = second.scope ∧ first.appKey = second.appKey) ∨
        Shifted first second ∨ Shifted second first :=
  colon_join_eq_iff

/-- A shift changes the scope. -/
theorem Shifted.scope_ne {first second : KisTokenCredentials} (shifted : Shifted first second) :
    first.scope ≠ second.scope := by
  obtain ⟨middle, scope, -⟩ := shifted
  intro same
  have lengths := congrArg (fun text => text.toList.length) (same.trans scope)
  simp [String.toList_append] at lengths

theorem validate_ok {credentials : KisAccountCredentials}
    (admitted : credentials.validate = .ok credentials) :
    credentials.environment.toList.length = 4 ∧ credentials.accountNumber.toList.length = 8 := by
  unfold KisAccountCredentials.validate at admitted
  split at admitted
  · cases admitted
  · rename_i number
    split at admitted
    · cases admitted
    · split at admitted
      · cases admitted
      · rename_i environment
        simp only [not_or, not_not] at number
        refine ⟨?_, number.2⟩
        simp only [not_not, List.mem_cons, List.not_mem_nil, or_false] at environment
        rcases environment with real | demo
        · rw [real]
          rfl
        · rw [demo]
          rfl

/-- The environments have four letters and the numbers eight digits. -/
theorem accountIdentity_inj {own other : Configuration}
    (same : accountIdentity own.accountCredentials = accountIdentity other.accountCredentials) :
    own.accountCredentials = other.accountCredentials := by
  obtain ⟨environment, number⟩ := validate_ok own.admitted
  obtain ⟨environment', number'⟩ := validate_ok other.admitted
  obtain ⟨sameEnvironment, rest⟩ := append_inj_of_length same (environment.trans environment'.symm)
  obtain ⟨-, rest⟩ := append_inj_of_length rest rfl
  obtain ⟨sameNumber, rest⟩ := append_inj_of_length rest (number.trans number'.symm)
  obtain ⟨-, sameCode⟩ := append_inj_of_length rest rfl
  cases hown : own.accountCredentials
  cases hother : other.accountCredentials
  simp_all

/-! ## The keys -/

/-- The kinds of keys, by the texts they start with. -/
def heading : Fin 5 → String
  | 0 => "oauth:token:"
  | 1 => "oauth:refresh:"
  | 2 => "market:domestic-price:"
  | 3 => "market:domestic-daily:"
  | 4 => "portfolio:domestic-stock-holdings:"

theorem heading_prefixFree : PrefixFree fun kind => (heading kind).toList := by
  unfold PrefixFree
  decide

namespace Use

def kind : Use → Fin 5
  | token => 0
  | refreshLock => 1
  | price _ => 2
  | dailyCandles _ => 3
  | holdings => 4

/-- The key behind its heading. -/
def rest (P : Platform) (own : Configuration) : Use → String
  | token => shortDigest P (tokenIdentity own.credentials)
  | refreshLock => shortDigest P (tokenIdentity own.credentials)
  | price stockCode => shortDigest P (tokenIdentity own.credentials) ++ (":" ++ stockCode)
  | dailyCandles stockCode => shortDigest P (tokenIdentity own.credentials) ++ (":" ++ stockCode)
  | holdings => shortDigest P (accountIdentity own.accountCredentials)

variable {J : JsonModule} {P : Platform} {own other : Configuration} {use use' : Use}

theorem key_eq (use : Use) : use.key J P own = heading use.kind ++ use.rest P own := by
  cases use <;> rfl

/-- Equal keys are of one kind, and equal behind the heading. -/
theorem kind_eq_of_key (same : use.key J P own = use'.key J P other) :
    use.kind = use'.kind ∧ use.rest P own = use'.rest P other := by
  rw [key_eq, key_eq] at same
  have lists := congrArg String.toList same
  simp only [String.toList_append] at lists
  have kinds := heading_prefixFree.eq_of_append lists
  rw [kinds] at same
  exact ⟨kinds, (append_inj_of_length same rfl).2⟩

/-- Stock codes have one length. -/
theorem stock_rest_inj {digest digest' stockCode stockCode' : String}
    (accepted : isStockCode stockCode = true) (accepted' : isStockCode stockCode' = true)
    (same : digest ++ (":" ++ stockCode) = digest' ++ (":" ++ stockCode')) :
    digest = digest' ∧ stockCode = stockCode' := by
  simp only [isStockCode, Bool.and_eq_true, decide_eq_true_eq] at accepted accepted'
  have lengths := congrArg String.length same
  simp only [String.length_append, accepted.1, accepted'.1] at lengths
  have shorter : digest.toList.length = digest'.toList.length := by
    rw [String.length_toList, String.length_toList]
    omega
  obtain ⟨digests, rest⟩ := append_inj_of_length same shorter
  exact ⟨digests, (append_inj_of_length rest rfl).2⟩

/-- What stands behind the heading is of the same thing and the same credentials, if the digest
does not collide and no colon is shifted. -/
theorem same_of_rest
    (injective : Set.InjOn (shortDigest P) (own.identities ∪ other.identities))
    (plain : ¬ Shifted own.credentials other.credentials ∧
      ¬ Shifted other.credentials own.credentials)
    (accepted : use.Accepted) (accepted' : use'.Accepted) (kinds : use.kind = use'.kind)
    (rests : use.rest P own = use'.rest P other) :
    use = use' ∧ use.SameCredentials own other := by
  have tokens (same : shortDigest P (tokenIdentity own.credentials) =
      shortDigest P (tokenIdentity other.credentials)) :
      own.credentials.scope = other.credentials.scope ∧
        own.credentials.appKey = other.credentials.appKey := by
    have identity := injective (.inl (.inl rfl)) (.inr (.inl rfl)) same
    rcases tokenIdentity_eq_iff.mp identity with fields | shifted | shifted
    · exact fields
    · exact absurd shifted plain.1
    · exact absurd shifted plain.2
  cases use <;> cases use' <;> simp only [kind, Fin.reduceEq] at kinds
  case token.token => exact ⟨rfl, tokens rests⟩
  case refreshLock.refreshLock => exact ⟨rfl, tokens rests⟩
  case price.price =>
    obtain ⟨digests, rfl⟩ := stock_rest_inj accepted accepted' rests
    exact ⟨rfl, tokens digests⟩
  case dailyCandles.dailyCandles =>
    obtain ⟨digests, rfl⟩ := stock_rest_inj accepted accepted' rests
    exact ⟨rfl, tokens digests⟩
  case holdings.holdings =>
    have identity := injective (.inl (.inr rfl)) (.inr (.inr rfl)) rests
    exact ⟨rfl, accountIdentity_inj identity⟩

end Use

/-- What is stored under another key is not read. -/
theorem get_of_set_other {key other value : String} {ttlSeconds : Int} {now later : Instant}
    {store after : TextStore} (differ : key ≠ other)
    (stored : KeyValueStore.set other value ttlSeconds now store = .ok after) :
    KeyValueStore.get key later after = KeyValueStore.get key later store := by
  by_cases named : key = ""
  · simp only [KeyValueStore.get, KeyValueStore.redisKey, if_pos named]
    rfl
  · obtain ⟨redis, redisKey, rest⟩ := bind_ok stored
    obtain ⟨ttl, -, rest⟩ := bind_ok rest
    cases rest
    rw [KeyValueStore.get_named named, KeyValueStore.get_named named]
    unfold KeyValueStore.redisKey at redisKey
    split at redisKey
    · cases redisKey
    · cases redisKey
      have apart : "kis-cache:" ++ key ≠ "kis-cache:" ++ other := fun same =>
        differ (append_inj_of_length same rfl).2
      simp only [Expiring.get, Expiring.set_of_ne _ _ apart]

/-- **Two clients are separated exactly if no colon is shifted** from the scope of the one to the
application key of the other. -/
theorem keys_separated_iff (J : JsonModule) (P : Platform) (own other : Configuration)
    (injective : Set.InjOn (shortDigest P) (own.identities ∪ other.identities)) :
    Separated J P own other ↔ ¬ Shifted own.credentials other.credentials ∧
      ¬ Shifted other.credentials own.credentials := by
  constructor
  · intro separated
    have apart (equal : tokenIdentity own.credentials = tokenIdentity other.credentials) :
        own.credentials.scope = other.credentials.scope :=
      (separated.keys .token .token trivial trivial
        (congrArg (fun identity => "oauth:token:" ++ shortDigest P identity) equal)).2.1
    refine ⟨fun shifted => ?_, fun shifted => ?_⟩
    · exact shifted.scope_ne (apart (tokenIdentity_eq_iff.mpr (.inr (.inl shifted))))
    · exact shifted.scope_ne (apart (tokenIdentity_eq_iff.mpr (.inr (.inr shifted)))).symm
  · intro plain
    have keys : ∀ use use' : Use, use.Accepted → use'.Accepted →
        use.key J P own = use'.key J P other → use = use' ∧ use.SameCredentials own other := by
      intro use use' accepted accepted' same
      obtain ⟨kinds, rests⟩ := Use.kind_eq_of_key same
      exact Use.same_of_rest injective plain accepted accepted' kinds rests
    refine ⟨keys, ?_⟩
    intro use use' accepted accepted' differ value ttlSeconds now store after stored later
    exact get_of_set_other (fun same => differ (keys use use' accepted accepted' same)) stored

/-! ## Two clients of one team -/

namespace Sample

def platform : Platform := .reference (fun _ _ => 0) (.aware 0) "1970-01-01T00:00:00Z"

def json : JsonModule := ⟨fun _ => .decodeError, fun _ => .decodeError, fun _ => ""⟩

def demo : KisAccountCredentials := ⟨"12345678", "01", "demo"⟩

theorem demo_admitted : demo.validate = .ok demo := rfl

/-- A client of the scope `team` whose application key has a colon in it. -/
def colonInKey : Configuration := ⟨⟨"a:b", "secret", "team"⟩, demo, demo_admitted⟩

/-- A client of another scope with another application key. -/
def colonInScope : Configuration := ⟨⟨"b", "secret", "team:a"⟩, demo, demo_admitted⟩

def noColon : Configuration := ⟨⟨"b", "secret", "team"⟩, demo, demo_admitted⟩

/-- The digests of the identities below are these identities. -/
theorem injective {texts : Set String} (short : ∀ text ∈ texts, shortDigest platform text = text) :
    Set.InjOn (shortDigest platform) texts := by
  intro text member other member' same
  rwa [short text member, short other member'] at same

theorem plain_injective :
    Set.InjOn (shortDigest platform) (colonInKey.identities ∪ noColon.identities) := by
  refine injective ?_
  rintro text ((rfl | rfl) | (rfl | rfl)) <;> decide +kernel

/-- The two clients are separated. -/
theorem plain_clients_are_separated : Separated json platform colonInKey noColon := by
  refine (keys_separated_iff json platform colonInKey noColon plain_injective).mpr ⟨?_, ?_⟩
  · exact fun shifted => shifted.scope_ne rfl
  · exact fun shifted => shifted.scope_ne rfl

/-- The two clients have one token between them, although the digest tells apart all that they
hash. -/
theorem shifted_colon_is_not_seen :
    Set.InjOn (shortDigest platform) (colonInKey.identities ∪ colonInScope.identities) ∧
      ¬ Separated json platform colonInKey colonInScope := by
  constructor
  · refine injective ?_
    rintro text ((rfl | rfl) | (rfl | rfl)) <;> decide +kernel
  · intro separated
    have same : Use.token.key json platform colonInKey = Use.token.key json platform colonInScope := by
      decide +kernel
    have scopes := (separated.keys .token .token trivial trivial same).2.1
    exact absurd scopes (by decide)

end Sample

end KisAutoTrading.Kis.CacheKeys
