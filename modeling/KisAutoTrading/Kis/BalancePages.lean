/-
# Kis.BalancePages — all the pages of a balance, or none

`list_domestic_stock_holdings` on a cache it misses. A response is a page if it parses
(`IsPage`); it is the last one unless its header is `M` or `F`, and then its two context
fields are those of the next request. `balance_complete_or_fails`: the requests thread the
context through at most ten pages, and the call returns and caches the holdings of all the
pages up to the last, in order; if there is no last page among the ten, or one up to it does
not parse, it raises and the cache stays as it is.

`collectPages_ok_iff` and `collectPages_requests` say this of the loop, from any of its passes on.
-/
import KisAutoTrading.Infrastructure.KisDomesticAccount

namespace KisAutoTrading.Kis.BalancePages

open Theory KisDomesticAccountClient

set_option autoImplicit false

section Spec

variable (client : KisDomesticAccountClient)

/-- A response that parses, with the context fields it has for the next page. -/
def IsPage (response : BalanceResponse) (holdings : List KisDomesticStockHolding)
    (next : Option (String × String)) : Prop :=
  ∃ payload, client.J.parseResponse client.P response.statusCode response.content = .ok payload ∧
    parseHoldings payload = .ok holdings ∧
    match next with
    | none => response.trCont ≠ some "M" ∧ response.trCont ≠ some "F"
    | some (contextFk, contextNk) => (response.trCont = some "M" ∨ response.trCont = some "F") ∧
        payload.get "ctx_area_fk100" = some (.str contextFk) ∧
        payload.get "ctx_area_nk100" = some (.str contextNk)

variable (answers : Nat → Except ProviderFailure BalanceResponse)

/-- What the provider answers to a request, counted from 0, is a page. -/
def Answered (number : Nat) (holdings : List KisDomesticStockHolding)
    (next : Option (String × String)) : Prop :=
  ∃ response, answers number = .ok response ∧ IsPage client response holdings next

/-- From a request on, the pages up to the first that is the last one: `n` others and that. -/
def Pages (first n : Nat) (pages : Nat → List KisDomesticStockHolding) : Prop :=
  (∀ i < n, ∃ next, Answered client answers (first + i) (pages i) (some next)) ∧
    Answered client answers (first + n) (pages n) none

/-- The holdings of all the pages, in order. -/
def allHoldings (n : Nat) (pages : Nat → List KisDomesticStockHolding) :
    List KisDomesticStockHolding :=
  (List.range (n + 1)).flatMap pages

/-- What is promised of a call that misses the cache. -/
structure CompleteOrFails (tokenCredentials : KisTokenCredentials)
    (token : Except TokenFailure KisAccessToken) (after : Moment)
    (requests : List BalanceRequest)
    (result : Except KisCallFailure (List KisDomesticStockHolding)) (store : TextStore) : Prop where
  few : requests.length ≤ 10
  first : ∀ request, requests[0]? = some request → ∃ granted, token = .ok granted ∧
    request = client.request tokenCredentials granted ⟨"", "", ""⟩
  later : ∀ i request, requests[i + 1]? = some request → ∃ granted, token = .ok granted ∧
    ∃ holdings contextFk contextNk,
      Answered client answers i holdings (some (contextFk, contextNk)) ∧
      request = client.request tokenCredentials granted ⟨contextFk, contextNk, "N"⟩
  returned : ∀ holdings, result = .ok holdings ↔ ∃ granted, token = .ok granted ∧
    ∃ n < 10, ∃ pages, Pages client answers 0 n pages ∧ holdings = allHoldings n pages
  cached : ∀ holdings, result = .ok holdings →
    KeyValueStore.set client.holdingsCache.key (client.J.dumps (holdingsEntry holdings)) 15
      after.now after.store = .ok store
  raised : ∀ failure, result = .error failure → store = after.store

end Spec

/-! ## One page -/

section Page

variable {client : KisDomesticAccountClient} {response : BalanceResponse}
  {holdings : List KisDomesticStockHolding}

theorem requiredString_eq_ok {payload : Dict} {name value : String} :
    requiredString payload name = .ok value ↔ payload.get name = some (.str value) := by
  unfold requiredString
  split
  · rename_i text found
    simp [found]
  · rename_i other
    refine ⟨nofun, fun found => ?_⟩
    exact absurd found (other value)

theorem isPage_of_readPage {context : Option PageContext}
    (read : client.readPage response = .ok (holdings, context)) :
    ∃ next, IsPage client response holdings next ∧
      context = next.map fun fields => ⟨fields.1, fields.2, "N"⟩ := by
  obtain ⟨payload, parsed, more⟩ := bind_ok read
  obtain ⟨rows, held, rest⟩ := bind_ok more
  split at rest
  · rename_i continues
    obtain ⟨contextFk, first, rest⟩ := bind_ok rest
    obtain ⟨contextNk, second, rest⟩ := bind_ok rest
    cases rest
    refine ⟨some (contextFk, contextNk), ⟨payload, parsed, held, ?_, ?_, ?_⟩, rfl⟩
    · simpa using continues
    · exact requiredString_eq_ok.mp first
    · exact requiredString_eq_ok.mp second
  · rename_i last
    cases rest
    refine ⟨none, ⟨payload, parsed, held, ?_⟩, rfl⟩
    simpa using last

theorem readPage_of_isPage {next : Option (String × String)}
    (page : IsPage client response holdings next) :
    client.readPage response =
      .ok (holdings, next.map fun fields => ⟨fields.1, fields.2, "N"⟩) := by
  obtain ⟨payload, parsed, held, header⟩ := page
  simp only [readPage, parsed, held, bind, Except.bind]
  cases next with
  | none =>
      have last : response.trCont ∉ [some "M", some "F"] := by simpa using header
      simp only [if_neg last]
      rfl
  | some fields =>
      obtain ⟨continues, first, second⟩ := header
      have more : response.trCont ∈ [some "M", some "F"] := by simpa using continues
      simp only [if_pos more, requiredString_eq_ok.mpr first, requiredString_eq_ok.mpr second]
      rfl

end Page

/-! ## The loop -/

section Loop

variable {client : KisDomesticAccountClient} {tokenCredentials : KisTokenCredentials}
  {token : KisAccessToken} {answers : Nat → Except ProviderFailure BalanceResponse}
  {first n remaining : Nat} {context : PageContext} {pages : Nat → List KisDomesticStockHolding}
  {collected holdings : List KisDomesticStockHolding}

/-- Whatever is asked first, the pages from a continued page on are that page and the pages
after it. -/
theorem Pages.cons {more : List KisDomesticStockHolding} {next : String × String}
    (page : Answered client answers first more (some next))
    (rest : Pages client answers (first + 1) n pages) :
    Pages client answers first (n + 1) (fun i => Nat.casesOn i more pages) := by
  constructor
  · intro i bound
    cases i with
    | zero => exact ⟨next, page⟩
    | succ i =>
        have later := rest.1 i (Nat.lt_of_succ_lt_succ bound)
        rwa [Nat.add_right_comm] at later
  · have last := rest.2
    rwa [Nat.add_right_comm] at last

theorem Pages.tail (whole : Pages client answers first (n + 1) pages) :
    Pages client answers (first + 1) n fun i => pages (i + 1) := by
  constructor
  · intro i bound
    have later := whole.1 (i + 1) (Nat.succ_lt_succ bound)
    rwa [← Nat.add_assoc, Nat.add_right_comm] at later
  · have last := whole.2
    rwa [← Nat.add_assoc, Nat.add_right_comm] at last

theorem allHoldings_succ (n : Nat) (pages : Nat → List KisDomesticStockHolding) :
    allHoldings (n + 1) pages = pages 0 ++ allHoldings n fun i => pages (i + 1) := by
  simp only [allHoldings, List.range_succ_eq_map (n := n + 1), List.flatMap_cons, List.flatMap_map]

/-- An answer is a page in one way at most. -/
theorem Answered.unique {more : List KisDomesticStockHolding} {next next' : Option (String × String)}
    (page : Answered client answers first holdings next)
    (page' : Answered client answers first more next') : holdings = more ∧ next = next' := by
  obtain ⟨response, given, page⟩ := page
  obtain ⟨response', given', page'⟩ := page'
  obtain rfl := Except.ok.inj (given.symm.trans given')
  have same := (readPage_of_isPage page).symm.trans (readPage_of_isPage page')
  simp only [Except.ok.injEq, Prod.mk.injEq] at same
  refine ⟨same.1, ?_⟩
  cases next <;> cases next' <;> simp_all [Prod.ext_iff]

variable (client tokenCredentials token answers remaining first context collected) in
/-- What one pass can do: it fails, meets the last page, or goes on with the context of its page. -/
theorem collectPages_pass :
    ((∃ failure, client.collectPages tokenCredentials token answers (remaining + 1) first context
          collected = ([client.request tokenCredentials token context], .error failure)) ∧
        ∀ more next, ¬ Answered client answers first more next) ∨
    (∃ more, Answered client answers first more none ∧
      client.collectPages tokenCredentials token answers (remaining + 1) first context collected =
        ([client.request tokenCredentials token context], .ok (collected ++ more))) ∨
    ∃ more contextFk contextNk,
      Answered client answers first more (some (contextFk, contextNk)) ∧
      client.collectPages tokenCredentials token answers (remaining + 1) first context collected =
        (client.request tokenCredentials token context ::
          (client.collectPages tokenCredentials token answers remaining (first + 1)
            ⟨contextFk, contextNk, "N"⟩ (collected ++ more)).1,
          (client.collectPages tokenCredentials token answers remaining (first + 1)
            ⟨contextFk, contextNk, "N"⟩ (collected ++ more)).2) := by
  rw [collectPages]
  cases given : answers first with
  | error failure =>
      refine .inl ⟨⟨_, rfl⟩, ?_⟩
      rintro more next ⟨response, other, -⟩
      rw [given] at other
      cases other
  | ok response =>
      cases read : client.readPage response with
      | error failure =>
          refine .inl ⟨⟨.response failure, by simp only [read]⟩, ?_⟩
          rintro more next ⟨response', same, page⟩
          obtain rfl := Except.ok.inj (given.symm.trans same)
          rw [readPage_of_isPage page] at read
          cases read
      | ok page =>
          obtain ⟨more, context'⟩ := page
          obtain ⟨next, page, rfl⟩ := isPage_of_readPage read
          cases next with
          | none => exact .inr (.inl ⟨more, ⟨response, given, page⟩, by simp only [read]; rfl⟩)
          | some fields =>
              exact .inr (.inr ⟨more, fields.1, fields.2, ⟨response, given, page⟩,
                by simp only [read]; rfl⟩)

/-- From any pass on, the loop returns exactly if it meets the last page before its passes are
over, with the holdings of the pages it met. -/
theorem collectPages_ok_iff :
    (client.collectPages tokenCredentials token answers remaining first context collected).2 =
        .ok holdings ↔
      ∃ n < remaining, ∃ pages, Pages client answers first n pages ∧
        holdings = collected ++ allHoldings n pages := by
  induction remaining generalizing first context collected with
  | zero => simp [collectPages]
  | succ remaining ih =>
      rcases collectPages_pass client tokenCredentials token answers first remaining context
          collected with
        ⟨⟨failure, failed⟩, none⟩ | ⟨more, last, ended⟩ | ⟨more, contextFk, contextNk, page, goes⟩
      · rw [failed]
        constructor
        · intro answered
          cases answered
        · rintro ⟨n, -, pages, whole, -⟩
          cases n with
          | zero => exact absurd whole.2 (none _ _)
          | succ n =>
              obtain ⟨next, page⟩ := whole.1 0 (Nat.succ_pos n)
              exact absurd page (none _ _)
      · rw [ended]
        constructor
        · rintro ⟨⟩
          refine ⟨0, Nat.succ_pos remaining, fun _ => more,
            ⟨fun i below => absurd below (Nat.not_lt_zero i), last⟩, ?_⟩
          simp [allHoldings]
        · rintro ⟨n, -, pages, whole, rfl⟩
          cases n with
          | zero =>
              obtain ⟨rfl, -⟩ := last.unique whole.2
              simp [allHoldings]
          | succ n =>
              obtain ⟨next, page⟩ := whole.1 0 (Nat.succ_pos n)
              cases (last.unique page).2
      · rw [goes]
        refine ih.trans ⟨?_, ?_⟩
        · rintro ⟨n, bound, pages, rest, rfl⟩
          refine ⟨n + 1, Nat.succ_lt_succ bound, _, Pages.cons page rest, ?_⟩
          rw [allHoldings_succ, List.append_assoc]
          rfl
        · rintro ⟨n, bound, pages, whole, rfl⟩
          cases n with
          | zero => cases (page.unique whole.2).2
          | succ n =>
              obtain ⟨next, page'⟩ := whole.1 0 (Nat.succ_pos n)
              obtain ⟨rfl, -⟩ := page.unique page'
              refine ⟨n, Nat.lt_of_succ_lt_succ bound, _, whole.tail, ?_⟩
              rw [allHoldings_succ, List.append_assoc]

variable (client tokenCredentials token answers remaining first context collected) in
/-- The requests from any pass on: the first has the context of the pass, and each other that
of the page before it. -/
theorem collectPages_requests :
    (client.collectPages tokenCredentials token answers remaining first context collected).1.length ≤
        remaining ∧
      (∀ request, (client.collectPages tokenCredentials token answers remaining first context
          collected).1[0]? = some request → request = client.request tokenCredentials token context) ∧
      ∀ i request, (client.collectPages tokenCredentials token answers remaining first context
          collected).1[i + 1]? = some request →
        ∃ holdings contextFk contextNk,
          Answered client answers (first + i) holdings (some (contextFk, contextNk)) ∧
          request = client.request tokenCredentials token ⟨contextFk, contextNk, "N"⟩ := by
  induction remaining generalizing first context collected with
  | zero => simp [collectPages]
  | succ remaining ih =>
      rcases collectPages_pass client tokenCredentials token answers first remaining context
          collected with
        ⟨⟨failure, failed⟩, -⟩ | ⟨more, -, ended⟩ | ⟨more, contextFk, contextNk, page, goes⟩
      · rw [failed]
        simp [eq_comm]
      · rw [ended]
        simp [eq_comm]
      · rw [goes]
        obtain ⟨few, start, later⟩ := ih (first + 1) ⟨contextFk, contextNk, "N"⟩ (collected ++ more)
        refine ⟨Nat.succ_le_succ few, by simp [eq_comm], ?_⟩
        intro i request sent
        cases i with
        | zero => exact ⟨more, contextFk, contextNk, page, start request sent⟩
        | succ i =>
            obtain ⟨holdings, contextFk', contextNk', page', same⟩ := later i request sent
            rw [Nat.add_right_comm] at page'
            exact ⟨holdings, contextFk', contextNk', page', same⟩

end Loop

/-! ## The call -/

section Call

variable {client : KisDomesticAccountClient} {tokenCredentials : KisTokenCredentials}
  {answers : Nat → Except ProviderFailure BalanceResponse} {before after : Moment}

theorem holdingsCache_key_ne : client.holdingsCache.key ≠ "" := fun empty =>
  absurd (String.append_eq_empty_iff.mp empty).1 (by decide)

theorem set_holdings (text : String) :
    KeyValueStore.set client.holdingsCache.key text 15 after.now after.store =
      .ok (after.store.set ("kis-cache:" ++ client.holdingsCache.key) text
        (after.now + seconds 15)) := by
  have redis : KeyValueStore.redisKey client.holdingsCache.key =
      .ok ("kis-cache:" ++ client.holdingsCache.key) := if_neg holdingsCache_key_ne
  simp only [KeyValueStore.set, redis]
  rfl

variable (after) in
/-- On a cache that is missed the call answers what the pages came to, and what it answers is
what it caches. -/
theorem run_holdings (missed : client.holdingsCache.lookup before = .ok none)
    (fetched : Except KisCallFailure (List KisDomesticStockHolding)) :
    ∃ store, client.holdingsCache.run fetched before after = (fetched, store) ∧
      (∀ holdings, fetched = .ok holdings →
        KeyValueStore.set client.holdingsCache.key (client.J.dumps (holdingsEntry holdings)) 15
          after.now after.store = .ok store) ∧
      ∀ failure, fetched = .error failure → store = after.store := by
  cases fetched with
  | error failure =>
      refine ⟨after.store, by simp only [CachedCall.run, missed], ?_, fun _ _ => rfl⟩
      intro holdings returned
      cases returned
  | ok holdings =>
      obtain ⟨store, stored⟩ : ∃ store, KeyValueStore.set client.holdingsCache.key
          (client.J.dumps (holdingsEntry holdings)) 15 after.now after.store = .ok store :=
        ⟨_, set_holdings _⟩
      have saved : client.holdingsCache.save holdings after = .ok store := by
        unfold CachedCall.save
        rw [show KeyValueStore.set client.holdingsCache.key (client.holdingsCache.write holdings)
          client.holdingsCache.ttlSeconds after.now after.store = .ok store from stored]
      refine ⟨store, by simp only [CachedCall.run, missed, saved], ?_, ?_⟩
      · intro returned same
        cases same
        exact stored
      · intro failure raised
        cases raised

variable (client tokenCredentials answers before after) in
/-- **The balance is complete or the call fails whole**: on a cache that it misses, it returns and
caches the holdings of all the pages, or it raises and leaves the cache as it is. -/
theorem balance_complete_or_fails (token : Except TokenFailure KisAccessToken)
    (missed : client.holdingsCache.lookup before = .ok none) :
    CompleteOrFails client answers tokenCredentials token after
      (client.listWithRequests tokenCredentials token answers before after).1
      (client.listWithRequests tokenCredentials token answers before after).2.1
      (client.listWithRequests tokenCredentials token answers before after).2.2 := by
  cases token with
  | error failure =>
      obtain ⟨store, ran, cached, raised⟩ := run_holdings after missed (.error (.token failure))
      simp only [listWithRequests, missed, ran]
      exact ⟨by simp, by simp, by simp, by simp, cached, raised⟩
  | ok granted =>
      obtain ⟨few, start, later⟩ := collectPages_requests client tokenCredentials granted answers 0
        maxBalancePages .start []
      obtain ⟨store, ran, cached, raised⟩ := run_holdings after missed
        (client.collectPages tokenCredentials granted answers maxBalancePages 0 .start []).2
      simp only [listWithRequests, missed, ran]
      refine ⟨few, ?_, ?_, ?_, cached, raised⟩
      · exact fun request sent => ⟨granted, rfl, start request sent⟩
      · intro i request sent
        obtain ⟨holdings, contextFk, contextNk, page, same⟩ := later i request sent
        rw [Nat.zero_add] at page
        exact ⟨granted, rfl, holdings, contextFk, contextNk, page, same⟩
      · intro holdings
        refine collectPages_ok_iff.trans ⟨?_, ?_⟩
        · rintro ⟨n, bound, pages, whole, same⟩
          exact ⟨granted, rfl, n, bound, pages, whole, same⟩
        · rintro ⟨_, -, n, bound, pages, whole, same⟩
          exact ⟨n, bound, pages, whole, same⟩

end Call

/-! ## Two pages -/

namespace Sample

def firstText : String :=
  "\x7b\"rt_cd\":\"0\",\"output1\":[\x7b\"pdno\":\"005930\",\"prdt_name\":\"Samsung\"," ++
  "\"hldg_qty\":\"3\",\"ord_psbl_qty\":\"3\",\"prpr\":\"71000\"\x7d]," ++
  "\"ctx_area_fk100\":\"FK\",\"ctx_area_nk100\":\"NK\"\x7d"

def lastText : String := "\x7b\"rt_cd\":\"0\",\"output1\":[]\x7d"

def holding : KisDomesticStockHolding where
  stockCode := "005930"
  productName := "Samsung"
  holdingQuantity := "3"
  orderableQuantity := "3"
  currentPrice := "71000"

/-- The values of the two texts. -/
def firstPayload : Dict := [
  ("rt_cd", .str "0"),
  ("output1", .arr [.obj [
    ("pdno", .str "005930"),
    ("prdt_name", .str "Samsung"),
    ("hldg_qty", .str "3"),
    ("ord_psbl_qty", .str "3"),
    ("prpr", .str "71000")]]),
  ("ctx_area_fk100", .str "FK"),
  ("ctx_area_nk100", .str "NK")]

def lastPayload : Dict := [("rt_cd", .str "0"), ("output1", .arr [])]

/-- `json.loads` on the bytes of the two texts. -/
def json : JsonModule where
  loads _ := .decodeError
  loadsBytes content :=
    if content = utf8 firstText then .value (.obj firstPayload)
    else if content = utf8 lastText then .value (.obj lastPayload)
    else .decodeError
  dumps _ := "[]"

def client : KisDomesticAccountClient where
  J := json
  P := .reference (fun _ _ => 0) (.aware 0) "1970-01-01T00:00:00Z"
  accountCredentials := ⟨"12345678", "01", "demo"⟩

def token : KisAccessToken := ⟨"token-value", "Bearer", 3600000000⟩

def answers : Nat → Except ProviderFailure BalanceResponse
  | 0 => .ok ⟨⟨200, utf8 firstText⟩, some "M"⟩
  | _ => .ok ⟨⟨200, utf8 lastText⟩, some ""⟩

def start : Moment := ⟨0, Expiring.empty⟩

theorem missed : client.holdingsCache.lookup start = .ok none := by
  simp only [CachedCall.lookup, KeyValueStore.get_named holdingsCache_key_ne]
  rfl

theorem first_page :
    Answered client answers 0 [holding] (some ("FK", "NK")) := by
  have loaded : json.loadsBytes (utf8 firstText) = .value (.obj firstPayload) := by
    simp only [json, if_true]
  refine ⟨_, rfl, firstPayload, ?_, rfl, .inl rfl, rfl, rfl⟩
  simp only [JsonModule.parseResponse, JsonModule.loadResponse, client, loaded]
  rfl

theorem last_page : Answered client answers 1 [] none := by
  have differ : utf8 lastText ≠ utf8 firstText := by decide +kernel
  have loaded : json.loadsBytes (utf8 lastText) = .value (.obj lastPayload) := by
    simp only [json, if_neg differ, if_true]
  refine ⟨_, rfl, lastPayload, ?_, rfl, by decide, by decide⟩
  simp only [JsonModule.parseResponse, JsonModule.loadResponse, client, loaded]
  rfl

/-- The holding of the first page and none of the second. -/
theorem two_pages_answered :
    (client.listWithRequests ⟨"test-app-key", "test-app-secret", "sandbox"⟩ (.ok token) answers
      start start).2.1 = .ok [holding] := by
  refine ((balance_complete_or_fails client ⟨"test-app-key", "test-app-secret", "sandbox"⟩ answers
    start start (.ok token) missed).returned [holding]).mpr ⟨token, rfl, 1, by decide,
      fun i => Nat.casesOn i [holding] fun _ => [], ?_, rfl⟩
  refine ⟨fun i bound => ?_, last_page⟩
  obtain rfl : i = 0 := Nat.lt_one_iff.mp bound
  exact ⟨_, first_page⟩

end Sample

end KisAutoTrading.Kis.BalancePages
