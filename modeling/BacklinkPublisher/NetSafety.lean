import BacklinkPublisher.IpNetworks

set_option autoImplicit false

/-!
# Hosts that a fetch may reach

`_check_url_for_ssrf` of `_util/net_safety.py` for every answer of the resolver.
-/
namespace BacklinkPublisher.NetSafety
open FormEncoding IpNetworks UrlSplit
open scoped Texts

def blockedNetworks : List Network :=
  [⟨"10.0.0.0/8", .v4 0x0a000000#32, 8⟩,
    ⟨"172.16.0.0/12", .v4 0xac100000#32, 12⟩,
    ⟨"192.168.0.0/16", .v4 0xc0a80000#32, 16⟩,
    ⟨"127.0.0.0/8", .v4 0x7f000000#32, 8⟩,
    ⟨"::1/128", .v6 1#128, 128⟩,
    ⟨"169.254.0.0/16", .v4 0xa9fe0000#32, 16⟩,
    ⟨"168.63.129.16/32", .v4 0xa83f8110#32, 32⟩,
    ⟨"fe80::/10", .v6 0xfe800000000000000000000000000000#128, 10⟩,
    ⟨"100.64.0.0/10", .v4 0x64400000#32, 10⟩,
    ⟨"224.0.0.0/4", .v4 0xe0000000#32, 4⟩,
    ⟨"ff00::/8", .v6 0xff000000000000000000000000000000#128, 8⟩,
    ⟨"0.0.0.0/8", .v4 0#32, 8⟩,
    ⟨"::/128", .v6 0#128, 128⟩,
    ⟨"192.0.2.0/24", .v4 0xc0000200#32, 24⟩,
    ⟨"198.51.100.0/24", .v4 0xc6336400#32, 24⟩,
    ⟨"203.0.113.0/24", .v4 0xcb007100#32, 24⟩,
    ⟨"198.18.0.0/15", .v4 0xc6120000#32, 15⟩,
    ⟨"2001::/32", .v6 0x20010000000000000000000000000000#128, 32⟩,
    ⟨"2002::/16", .v6 0x20020000000000000000000000000000#128, 16⟩]

def privateOkNetworks : List Network :=
  [⟨"10.0.0.0/8", .v4 0x0a000000#32, 8⟩,
    ⟨"172.16.0.0/12", .v4 0xac100000#32, 12⟩,
    ⟨"192.168.0.0/16", .v4 0xc0a80000#32, 16⟩,
    ⟨"127.0.0.0/8", .v4 0x7f000000#32, 8⟩,
    ⟨"::1/128", .v6 1#128, 128⟩]

/-- Every network is the one of its text. -/
theorem blockedNetworks_text : ∀ net ∈ blockedNetworks, ipNetwork net.text = some net := by
  decide +kernel

/-- What the loop over the networks returns. -/
def blockedBy (ip : IpAddress) (allowPrivate : Bool) : List Network → Option String
  | [] => none
  | net :: nets =>
    if net.contains ip then
      if allowPrivate ∧ net ∈ privateOkNetworks then none else some ("blocked_ip:" ++ net.text)
    else blockedBy ip allowPrivate nets

def isBlockedIp (ipText : List Char) (allowPrivate : Bool) : Option String :=
  match ipAddress ipText with
  | none => some "invalid_ip"
  | some ip => blockedBy ip allowPrivate blockedNetworks

/-- What `socket.getaddrinfo` answers: the first entry of each `sockaddr`, an `OSError`, or another
exception. -/
inductive Resolution where
  | answers (sockaddrs : List (Option (List Char)))
  | osError
  | raised
  deriving DecidableEq, Repr

inductive Resolved where
  | ips (texts : List (List Char))
  | failed (reason : String)
  | raised
  deriving DecidableEq, Repr

def addAnswer (ips : List (List Char)) : Option (List Char) → List (List Char)
  | none => ips
  | some ip => if ip ≠ [] ∧ ip ∉ ips then ips ++ [ip] else ips

def resolveHostIps (getaddrinfo : List Char → Resolution) (host : List Char) : Resolved :=
  if host = [] then .failed "invalid_host"
  else
    match getaddrinfo host with
    | .raised => .raised
    | .osError => .failed "dns_failure"
    | .answers sockaddrs =>
      let ips := sockaddrs.foldl addAnswer []
      if ips = [] then .failed "dns_failure" else .ips ips

inductive Verdict where
  | allowed
  | blocked (reason : String)
  | raised
  deriving DecidableEq, Repr

def ofReason : Option String → Verdict
  | none => .allowed
  | some reason => .blocked reason

/-- The host of a URL, where `safe_urlparse` parses it and it has one. -/
def hostOf (U : UnicodeData) (url : List Char) : Option (List Char) :=
  if url = [] then none
  else ((urlsplit U url).bind fun parts => hostname U parts.netloc).filter fun host => host ≠ []

def checkHost (getaddrinfo : List Char → Resolution) (host : List Char) (allowPrivate : Bool) :
    Verdict :=
  if (ipAddress host).isSome then ofReason (isBlockedIp host allowPrivate)
  else
    match resolveHostIps getaddrinfo host with
    | .raised => .raised
    | .failed reason => .blocked reason
    | .ips ips => ofReason (ips.findSome? fun ip => isBlockedIp ip allowPrivate)

/-- `_check_url_for_ssrf`. -/
def checkUrlForSsrf (U : UnicodeData) (getaddrinfo : List Char → Resolution) (url : List Char)
    (allowPrivate : Bool) : Verdict :=
  match hostOf U url with
  | none => .blocked "invalid_host"
  | some host => checkHost getaddrinfo host allowPrivate

/-! ## What is asked of it -/

/-- The texts of the host's addresses: the host itself where it is one, and else the answers. -/
def hostTexts (getaddrinfo : List Char → Resolution) (host : List Char) : List (List Char) :=
  if (ipAddress host).isSome then [host]
  else
    match getaddrinfo host with
    | .answers sockaddrs => sockaddrs.filterMap fun sockaddr => sockaddr.filter fun ip => ip ≠ []
    | _ => []

def addresses (U : UnicodeData) (getaddrinfo : List Char → Resolution) (url : List Char) :
    List IpAddress :=
  match hostOf U url with
  | none => []
  | some host => (hostTexts getaddrinfo host).filterMap ipAddress

def Blocked (ip : IpAddress) : Prop := ∃ net ∈ blockedNetworks, net.contains ip = true

def PrivateOk (ip : IpAddress) : Prop := ∃ net ∈ privateOkNetworks, net.contains ip = true

/-- The IPv4 address, or one that embeds it. -/
def Spells (ip : IpAddress) (a : BitVec 32) : Prop :=
  ip = .v4 a ∨ Mapped ip a ∨ SixToFour ip a ∨ Nat64 ip a

/-- No spelling of a blocked IPv4 address gets through; with `allow_private` what gets through is
outside the blocked networks or private, in every spelling; and nothing raises. -/
structure Closed (U : UnicodeData) (getaddrinfo : List Char → Resolution) (url : List Char) :
    Prop where
  returns : ∀ allowPrivate, checkUrlForSsrf U getaddrinfo url allowPrivate ≠ .raised
  strict : ∀ ip ∈ addresses U getaddrinfo url, ∀ a, Blocked (.v4 a) → Spells ip a →
    ∃ reason, checkUrlForSsrf U getaddrinfo url false = .blocked reason
  lenient : checkUrlForSsrf U getaddrinfo url true = .allowed →
    ∀ ip ∈ addresses U getaddrinfo url, (¬ Blocked ip ∨ PrivateOk ip) ∧
      ∀ a, Spells ip a → ¬ Blocked (.v4 a) ∨ PrivateOk (.v4 a)

/-- An address that the loop refuses, or no address. -/
def Refused (allowPrivate : Bool) (ipText : List Char) : Prop :=
  ∀ ip, ipAddress ipText = some ip → Blocked ip ∧ ¬ (allowPrivate = true ∧ PrivateOk ip)

/-- The resolver raises nothing but `OSError`, and where an address of the host is the mapped or the
NAT64 form of a blocked IPv4 address, another answer is refused by itself. -/
structure Covered (U : UnicodeData) (getaddrinfo : List Char → Resolution) (url : List Char) :
    Prop where
  resolves : ∀ host, hostOf U url = some host → ipAddress host = none →
    getaddrinfo host ≠ .raised
  embedded : ∀ allowPrivate host, hostOf U url = some host →
    ∀ ip ∈ addresses U getaddrinfo url, ∀ a, Mapped ip a ∨ Nat64 ip a →
      Blocked (.v4 a) → ¬ (allowPrivate = true ∧ PrivateOk (.v4 a)) →
        ∃ text ∈ hostTexts getaddrinfo host, Refused allowPrivate text

/-! ## The loop over the networks -/

/-- A blocked network that shares an address with a private one is one of these. -/
theorem separate : ∀ net ∈ blockedNetworks, ∀ other ∈ privateOkNetworks,
    net.overlaps other = true → net ∈ privateOkNetworks := by
  decide

theorem blockedBy_eq_none {ip : IpAddress} {allowPrivate : Bool} {nets : List Network}
    (sub : nets ⊆ blockedNetworks) : blockedBy ip allowPrivate nets = none ↔
      ∀ net ∈ nets, net.contains ip = true → allowPrivate = true ∧ PrivateOk ip := by
  induction nets with
  | nil => exact ⟨fun _ _ member => (by cases member), fun _ => rfl⟩
  | cons net nets ih =>
    rw [List.cons_subset] at sub
    rw [blockedBy, List.forall_mem_cons]
    split_ifs with holds ok
    · exact ⟨fun _ => ⟨fun _ => ⟨ok.1, net, ok.2, holds⟩, fun _ _ _ => ⟨ok.1, net, ok.2, holds⟩⟩,
        fun _ => rfl⟩
    · constructor
      · intro impossible
        cases impossible
      · intro all
        have ⟨allow, other, member, holds'⟩ := all.1 holds
        exact (ok ⟨allow, separate net sub.1 other member (overlaps_of_contains holds holds')⟩).elim
    · rw [ih sub.2]
      exact ⟨fun all => ⟨fun h => (holds h).elim, all⟩, fun all => all.2⟩

theorem isBlockedIp_eq_none {text : List Char} {allowPrivate : Bool} :
    isBlockedIp text allowPrivate = none ↔ ¬ Refused allowPrivate text := by
  unfold isBlockedIp Refused
  cases parsed : ipAddress text with
  | none => simp
  | some ip =>
    dsimp only
    rw [blockedBy_eq_none (List.Subset.refl _)]
    constructor
    · intro all refused
      have ⟨⟨net, member, holds⟩, private_⟩ := refused ip rfl
      exact private_ (all net member holds)
    · intro passes net member holds
      by_contra private_
      apply passes
      intro other same
      rw [← Option.some.inj same]
      exact ⟨⟨net, member, holds⟩, private_⟩

/-! ## The check of a host -/

theorem mem_foldl_addAnswer {sockaddrs : List (Option (List Char))} {ips : List (List Char)}
    {text : List Char} :
    text ∈ sockaddrs.foldl addAnswer ips ↔ text ∈ ips ∨
      text ∈ sockaddrs.filterMap fun sockaddr => sockaddr.filter fun ip => ip ≠ [] := by
  induction sockaddrs generalizing ips with
  | nil => simp
  | cons sockaddr sockaddrs ih =>
    rw [List.foldl_cons, ih]
    cases sockaddr with
    | none => rfl
    | some ip =>
      by_cases blank : ip = []
      · have kept : addAnswer ips (some ip) = ips := if_neg fun h => h.1 blank
        rw [kept, List.filterMap_cons_none (by simp [blank])]
      · have some_ : (some ip).filter (fun ip => ip ≠ []) = some ip := by simp [blank]
        rw [List.filterMap_cons_some some_, List.mem_cons]
        unfold addAnswer
        dsimp only
        split_ifs with fresh
        · rw [List.mem_append, List.mem_singleton, or_assoc]
        · have known : ip ∈ ips := by
            by_contra absent
            exact fresh ⟨blank, absent⟩
          constructor
          · rintro (held | later)
            · exact .inl held
            · exact .inr (.inr later)
          · rintro (held | rfl | later)
            · exact .inl held
            · exact .inl known
            · exact .inr later

variable {U : UnicodeData} {getaddrinfo : List Char → Resolution} {url host : List Char}
  {allowPrivate : Bool}

theorem ofReason_eq_allowed {reason : Option String} :
    ofReason reason = .allowed ↔ reason = none := by
  cases reason with
  | none => exact ⟨fun _ => rfl, fun _ => rfl⟩
  | some reason => exact ⟨fun h => (by cases h), fun h => (by cases h)⟩

theorem ofReason_ne_raised (reason : Option String) : ofReason reason ≠ .raised := by
  cases reason <;> exact fun h => by cases h

theorem checkHost_raised (some_ : host ≠ []) :
    checkHost getaddrinfo host allowPrivate = .raised ↔
      ipAddress host = none ∧ getaddrinfo host = .raised := by
  unfold checkHost resolveHostIps
  cases parsed : ipAddress host with
  | some ip => simp [ofReason_ne_raised]
  | none =>
    simp only [Option.isSome_none, Bool.false_eq_true, if_false, if_neg some_]
    cases getaddrinfo host with
    | raised => simp
    | osError => simp
    | answers sockaddrs =>
      dsimp only
      split_ifs with none_
      · exact ⟨fun h => (by cases h), fun h => (by cases h.2)⟩
      · exact ⟨fun h => (ofReason_ne_raised _ h).elim, fun h => (by cases h.2)⟩

/-- A host passes where it has addresses and none of them is refused. -/
theorem checkHost_allowed (some_ : host ≠ []) :
    checkHost getaddrinfo host allowPrivate = .allowed ↔
      hostTexts getaddrinfo host ≠ [] ∧
        ∀ text ∈ hostTexts getaddrinfo host, ¬ Refused allowPrivate text := by
  unfold checkHost resolveHostIps hostTexts
  cases parsed : ipAddress host with
  | some ip =>
    simp only [Option.isSome_some, if_true]
    rw [ofReason_eq_allowed, isBlockedIp_eq_none, List.forall_mem_singleton]
    exact ⟨fun h => ⟨List.cons_ne_nil _ _, h⟩, fun h => h.2⟩
  | none =>
    simp only [Option.isSome_none, Bool.false_eq_true, if_false, if_neg some_]
    cases getaddrinfo host with
    | raised => simp
    | osError => simp
    | answers sockaddrs =>
      dsimp only
      have members : ∀ text, text ∈ sockaddrs.foldl addAnswer [] ↔
          text ∈ sockaddrs.filterMap fun sockaddr => sockaddr.filter fun ip => ip ≠ [] := by
        intro text
        rw [mem_foldl_addAnswer]
        simp
      have empty : sockaddrs.foldl addAnswer [] = [] ↔
          (sockaddrs.filterMap fun sockaddr => sockaddr.filter fun ip => ip ≠ []) = [] := by
        rw [List.eq_nil_iff_forall_not_mem, List.eq_nil_iff_forall_not_mem]
        exact forall_congr' fun text => not_congr (members text)
      split_ifs with none_
      · exact ⟨fun h => (by cases h), fun h => (h.1 (empty.1 none_)).elim⟩
      · dsimp only
        rw [ofReason_eq_allowed, List.findSome?_eq_none_iff]
        constructor
        · intro passes
          refine ⟨fun h => none_ (empty.2 h), fun text member => ?_⟩
          exact isBlockedIp_eq_none.1 (passes text ((members text).2 member))
        · intro passes text member
          exact isBlockedIp_eq_none.2 (passes.2 text ((members text).1 member))

/-! ## The spellings of an address -/

theorem sixToFour_refused {ip : IpAddress} {a : BitVec 32} (embeds : SixToFour ip a) :
    Blocked ip ∧ ¬ PrivateOk ip := by
  have ⟨bits, is, top, _⟩ := embeds
  let net : Network := ⟨"2002::/16", .v6 0x20020000000000000000000000000000#128, 16⟩
  have member : net ∈ blockedNetworks := by decide
  have holds : net.contains ip = true := by
    unfold Network.contains
    rw [decide_eq_true_iff, is]
    refine ⟨rfl, ?_⟩
    change bits.toNat / 2 ^ 112 = 0x20020000000000000000000000000000 / 2 ^ 112
    rw [top]
    rfl
  refine ⟨⟨net, member, holds⟩, fun ⟨other, among, holds'⟩ => ?_⟩
  exact absurd (separate net member other among (overlaps_of_contains holds holds')) (by decide)

theorem hostOf_ne_nil (known : hostOf U url = some host) : host ≠ [] := by
  unfold hostOf at known
  split_ifs at known
  exact of_decide_eq_true (Option.filter_eq_some_iff.1 known).2

theorem mem_addresses {ip : IpAddress} (known : hostOf U url = some host) :
    ip ∈ addresses U getaddrinfo url ↔
      ∃ text ∈ hostTexts getaddrinfo host, ipAddress text = some ip := by
  unfold addresses
  rw [known, List.mem_filterMap]

theorem checkUrlForSsrf_eq (known : hostOf U url = some host) :
    checkUrlForSsrf U getaddrinfo url allowPrivate = checkHost getaddrinfo host allowPrivate := by
  unfold checkUrlForSsrf
  rw [known]

/-- Where the resolver answers, what is not let through has a reason. -/
theorem blocked_iff (returns : checkHost getaddrinfo host allowPrivate ≠ .raised) :
    (∃ reason, checkHost getaddrinfo host allowPrivate = .blocked reason) ↔
      checkHost getaddrinfo host allowPrivate ≠ .allowed := by
  cases verdict : checkHost getaddrinfo host allowPrivate with
  | allowed => simp
  | blocked reason => simp
  | raised => exact (returns verdict).elim

theorem Closed.covered (closed : Closed U getaddrinfo url) : Covered U getaddrinfo url where
  resolves host known name raised := by
    apply closed.returns true
    rw [checkUrlForSsrf_eq known]
    exact (checkHost_raised (hostOf_ne_nil known)).2 ⟨name, raised⟩
  embedded allow host known ip member a embeds blocked public_ := by
    by_contra none_
    push Not at none_
    have ⟨text, among, _⟩ := (mem_addresses known).1 member
    have passes : checkHost getaddrinfo host allow = .allowed :=
      (checkHost_allowed (hostOf_ne_nil known)).2 ⟨List.ne_nil_of_mem among, none_⟩
    have spells : Spells ip a := by
      rcases embeds with mapped | nat64
      · exact .inr (.inl mapped)
      · exact .inr (.inr (.inr nat64))
    rw [← checkUrlForSsrf_eq known] at passes
    cases allow with
    | false =>
      have ⟨reason, stopped⟩ := closed.strict ip member a blocked spells
      rw [passes] at stopped
      cases stopped
    | true =>
      rcases (closed.lenient passes ip member).2 a spells with outside | private_
      · exact outside blocked
      · exact public_ ⟨rfl, private_⟩

theorem Covered.closed (covered : Covered U getaddrinfo url) : Closed U getaddrinfo url := by
  cases known : hostOf U url with
  | none =>
    have invalid : ∀ allow, checkUrlForSsrf U getaddrinfo url allow = .blocked "invalid_host" := by
      intro allow
      unfold checkUrlForSsrf
      rw [known]
    refine ⟨fun allow h => ?_, fun _ _ _ _ _ => ⟨_, invalid false⟩, fun h => ?_⟩
    · rw [invalid allow] at h
      cases h
    · rw [invalid true] at h
      cases h
  | some host =>
    have some_ := hostOf_ne_nil known
    have returns : ∀ allow, checkHost getaddrinfo host allow ≠ .raised := by
      intro allow raised
      have ⟨name, raised'⟩ := (checkHost_raised some_).1 raised
      exact covered.resolves host known name raised'
    -- An address that spells a harmful one is refused, or another one is.
    have refused : ∀ allow, checkHost getaddrinfo host allow = .allowed →
        ∀ ip ∈ addresses U getaddrinfo url, ∀ a, Spells ip a → Blocked (.v4 a) →
          allow = true ∧ PrivateOk (.v4 a) := by
      intro allow passes ip member a spells blocked
      have ⟨_, clean⟩ := (checkHost_allowed some_).1 passes
      have ⟨text, among, parsed⟩ := (mem_addresses known).1 member
      by_contra public_
      have own : Blocked ip → ¬ (allow = true ∧ PrivateOk ip) → False := fun blocked' public' =>
        clean text among fun other same => by
          rw [parsed, Option.some_inj] at same
          rw [← same]
          exact ⟨blocked', public'⟩
      have other : Mapped ip a ∨ Nat64 ip a → False := fun embeds => by
        have ⟨text', among', refused⟩ :=
          covered.embedded allow host known ip member a embeds blocked public_
        exact clean text' among' refused
      rcases spells with same | mapped | sixToFour | nat64
      · rw [same] at own
        exact own blocked public_
      · exact other (.inl mapped)
      · have ⟨blocked', public'⟩ := sixToFour_refused sixToFour
        exact own blocked' fun h => public' h.2
      · exact other (.inr nat64)
    constructor
    · intro allow
      rw [checkUrlForSsrf_eq known]
      exact returns allow
    · intro ip member a blocked spells
      rw [checkUrlForSsrf_eq known, blocked_iff (returns false)]
      intro passes
      exact absurd (refused false passes ip member a spells blocked).1 (by decide)
    · intro passes ip member
      rw [checkUrlForSsrf_eq known] at passes
      constructor
      · have ⟨_, clean⟩ := (checkHost_allowed some_).1 passes
        have ⟨text, among, parsed⟩ := (mem_addresses known).1 member
        by_contra harmful
        push Not at harmful
        apply clean text among
        intro other same
        rw [parsed, Option.some_inj] at same
        rw [← same]
        exact ⟨harmful.1, fun h => harmful.2 h.2⟩
      · intro a spells
        by_contra harmful
        push Not at harmful
        exact harmful.2 (refused true passes ip member a spells harmful.1).2

/-- The check is closed under the spellings exactly where the resolver raises nothing else and no
mapped or NAT64 form of a blocked address stands alone. -/
theorem spellings_closed_iff (U : UnicodeData) (getaddrinfo : List Char → Resolution) (url : List Char) :
    Closed U getaddrinfo url ↔ Covered U getaddrinfo url :=
  ⟨Closed.covered, Covered.closed⟩

def mappedUrl : List Char := "http://[::ffff:169.254.169.254]/latest/meta-data/".toList

def nat64Url : List Char := "http://[64:ff9b::a00:1]/".toList

/-- The metadata address passes in its mapped form, a private one in its NAT64 form, and an
exception of the resolver is passed on. -/
theorem mapped_address_passes :
    (checkUrlForSsrf asciiData (fun _ => .osError) mappedUrl true = .allowed ∧
      ¬ Closed asciiData (fun _ => .osError) mappedUrl) ∧
    (checkUrlForSsrf asciiData (fun _ => .osError) nat64Url false = .allowed ∧
      ¬ Closed asciiData (fun _ => .osError) nat64Url) ∧
    checkUrlForSsrf asciiData (fun _ => .raised) "http://a..b/".toList false = .raised := by
  have mapped : checkUrlForSsrf asciiData (fun _ => .osError) mappedUrl true = .allowed := by
    decide +kernel
  have nat64 : checkUrlForSsrf asciiData (fun _ => .osError) nat64Url false = .allowed := by
    decide +kernel
  refine ⟨⟨mapped, fun closed => ?_⟩, ⟨nat64, fun closed => ?_⟩, by decide +kernel⟩
  · have member : .v6 0xffffa9fea9fe#128 ∈ addresses asciiData (fun _ => .osError) mappedUrl := by
      decide +kernel
    have spells : Spells (.v6 0xffffa9fea9fe#128) 0xa9fea9fe#32 :=
      .inr (.inl ⟨_, rfl, by decide, by decide⟩)
    rcases (closed.lenient mapped _ member).2 _ spells with outside | private_
    · exact outside (by unfold Blocked; decide)
    · exact absurd private_ (by unfold PrivateOk; decide)
  · have member : .v6 0x64ff9b00000000000000000a000001#128 ∈
        addresses asciiData (fun _ => .osError) nat64Url := by
      decide +kernel
    have spells : Spells (.v6 0x64ff9b00000000000000000a000001#128) 0x0a000001#32 :=
      .inr (.inr (.inr ⟨_, rfl, by decide, by decide⟩))
    have ⟨reason, stopped⟩ := closed.strict _ member _ (by unfold Blocked; decide) spells
    rw [nat64] at stopped
    cases stopped

end BacklinkPublisher.NetSafety
