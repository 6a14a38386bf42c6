import ResultFlow.Proofs.Cursor.Requests
import ResultFlow.Proofs.Json.Printing
import ResultFlow.Proofs.Page.Layout

/-!
# The text of a request

The text of a page request is JSON, and the object that it presents shows the request and nothing
else (`PageRequest.Shown`). It shows no other request, so that the text tells which request was
made, down to the token: an empty one is not the same as none, and whatever characters a token of a
page has, the next request asks with the same token.

1. An object shows one request at most (`Shown.unique`).
2. The text of a request presents an object that shows it (`presents_text`, `toJson_shown`).
3. The token of a page is the text under its name in the answer (`Page.next_eq_some_iff`).
4. What is sent for two requests differs in the bodies alone (`Http.QueryClient.requestFor_eq`).
-/

namespace ResultFlow

open Json

namespace PageRequest

variable {r r' : PageRequest} {members : List (Option String × Json)} {j v : Json}

/-! ## Objects that show a request -/

/-- The object of a request: the query and the number of rows, and the token if there is one. They
stand in any order, each of them once, and nothing else is there. -/
inductive Shown (r : PageRequest) : Json → Prop
  | object {members : List (Option String × Json)} {l : List Char}
      (hl : Integer.read? l = some (r.maxRows : Int))
      (h : members.Perm ((some "QueryExecutionId", .text (some r.query)) ::
        (some "MaxResults", .number l) ::
          (r.token.map fun t => (some "NextToken", .text (some t))).toList)) :
      Shown r (.object members)

namespace Shown

theorem query_mem (h : Shown r (.object members)) :
    (some "QueryExecutionId", v) ∈ members ↔ v = .text (some r.query) := by
  cases h with
  | object hl h =>
    rw [h.mem_iff]
    cases r.token <;> simp

theorem maxRows_mem (h : Shown r (.object members)) : ∃ l,
    Integer.read? l = some (r.maxRows : Int) ∧
      ∀ v, (some "MaxResults", v) ∈ members ↔ v = .number l := by
  cases h with
  | @object _ l hl h =>
    refine ⟨l, hl, fun v => ?_⟩
    rw [h.mem_iff]
    cases r.token <;> simp

theorem token_mem (h : Shown r (.object members)) :
    (some "NextToken", v) ∈ members ↔ ∃ t, r.token = some t ∧ v = .text (some t) := by
  cases h with
  | object hl h =>
    rw [h.mem_iff]
    cases r.token <;> simp

/-- An object shows one request at most. -/
theorem unique (h : Shown r j) (h' : Shown r' j) : r = r' := by
  obtain ⟨members, rfl⟩ : ∃ members, j = .object members := by
    cases h
    exact ⟨_, rfl⟩
  have hquery : r.query = r'.query := by
    have hv := h'.query_mem.mp (h.query_mem.mpr rfl)
    exact Option.some.inj (Json.text.inj hv)
  have hrows : r.maxRows = r'.maxRows := by
    obtain ⟨l, hl, hm⟩ := h.maxRows_mem
    obtain ⟨l', hl', hm'⟩ := h'.maxRows_mem
    have hv := (hm' _).mp ((hm _).mpr rfl)
    cases hv
    exact Int.ofNat.inj (Option.some.inj (hl.symm.trans hl'))
  have htoken : r.token = r'.token := by
    refine Option.ext fun t => ?_
    have hmem : ∀ {r : PageRequest}, Shown r (.object members) →
        (r.token = some t ↔ (some "NextToken", .text (some t)) ∈ members) := by
      intro r hr
      rw [hr.token_mem]
      exact ⟨fun ht => ⟨t, ht, rfl⟩, by rintro ⟨t', ht, he⟩; cases he; exact ht⟩
    exact (hmem h).trans (hmem h').symm
  cases r
  cases r'
  cases hquery
  cases hrows
  cases htoken
  rfl

end Shown

/-! ## Texts -/

theorem toJson_shown (r : PageRequest) : r.Shown r.toJson := by
  refine .object (Integer.read?_toDigits r.maxRows) ?_
  rcases r with ⟨query, _ | t, maxRows⟩
  · exact .refl _
  · exact .cons _ (.swap ..)

theorem spelled_toJson (r : PageRequest) : Spelled r.toJson := by
  have hn := isNumber_toDigits r.maxRows
  rcases r with ⟨query, _ | t, maxRows⟩
  · exact ⟨trivial, hn, trivial⟩
  · exact ⟨trivial, trivial, hn, trivial⟩

/-- The text of a request presents its object. -/
theorem presents_text (r : PageRequest) : Presents r.text r.toJson :=
  presents_print r.spelled_toJson

theorem read?_text (r : PageRequest) : Json.read? r.text = some r.toJson :=
  read?_print r.spelled_toJson

/-- The text of a request tells which one it is. -/
theorem text_injective (h : r.text = r'.text) : r = r' := by
  have hj : r.toJson = r'.toJson :=
    Option.some.inj (r.read?_text.symm.trans (h ▸ r'.read?_text))
  exact r.toJson_shown.unique (hj ▸ r'.toJson_shown)

end PageRequest

/-! ## Tokens of pages -/

theorem Json.optionalText?_text_iff {v : Option Json} {s : Option String}
    (h : optionalText? v = some s) (t : String) : s = some t ↔ v.toList = [.text (some t)] := by
  rcases v with _ | _ | _ | _ | (_ | x) | _ | _ <;> cases h <;> simp

/-- The token of a page is the text under its name in the answer. -/
theorem Page.next_eq_some_iff {s : String} {p : Page} (h : Page.read? s = some p) :
    ∃ j, Json.read? s = some j ∧
      ∀ t, p.next = some t ↔ under (names Page.fields) "NextToken" j = [.text (some t)] := by
  obtain ⟨j, hj, h⟩ := Option.bind_eq_some_iff.mp h
  refine ⟨j, hj, fun t => ?_⟩
  obtain ⟨vs, hv, h⟩ := Option.bind_eq_some_iff.mp h
  have hu : List.Forall₂ (fun name v => under (names Page.fields) name j = v.toList)
      (names Page.fields) vs := under_of_fields? (by decide) hv
  split at h
  · obtain ⟨fs, -, h⟩ := Option.bind_eq_some_iff.mp h
    split at h
    · obtain ⟨next, hnext, h⟩ := Option.bind_eq_some_iff.mp h
      simp only [Option.bind_eq_bind, Option.bind_eq_some_iff] at h
      obtain ⟨_, -, _, -, h⟩ := h
      cases h
      cases hu with
      | cons hu _ =>
        rw [hu]
        exact optionalText?_text_iff hnext t
    · cases h
  · cases h

/-! ## What goes over the wire -/

/-- Two requests for pages differ in their bodies alone, which are their texts. -/
theorem Http.QueryClient.requestFor_eq {τ : Type} (q : QueryClient τ) (r r' : PageRequest) :
    q.requestFor r' = (q.requestFor r).map fun request =>
      { request with body := some r'.text } := by
  unfold requestFor Request.build? Request.withHeaders?
  cases Url.read? q.endpoint with
  | none => rfl
  | some u =>
    dsimp only
    by_cases hu : u.authority.isSome = true
    · rw [if_pos hu, if_pos hu]
      by_cases hh : (headers.all fun h => isHeaderName h.1 && isHeaderValue h.2) = true
      · rw [if_pos hh, if_pos hh]
        rfl
      · rw [if_neg hh, if_neg hh]
        rfl
    · rw [if_neg hu, if_neg hu]
      rfl

theorem Http.QueryClient.read?_of_pageOf {τ : Type} {q : QueryClient τ} {response : Response}
    {p : Page} (h : q.pageOf response = .ok p) :
    ∃ body, response.text = .ok body ∧ Page.read? body = some p := by
  unfold pageOf at h
  split at h
  · cases h
  · rename_i body hbody
    split at h
    · rename_i hpage
      cases h
      exact ⟨body, hbody, hpage⟩
    · cases h

/-! ## Main statement -/

open Http in
/-- **The text of a request.** The text of every page request presents one JSON value and is read as
it. That value is an object with the query and the number of rows, with the token exactly if there
is one, and with nothing else, so that requests with the same text are equal. The text is the body
of what is sent, of which nothing else depends on the request. The token of a page is the text under
its name in the answer, however it is spelled there, and the text of every request of a run asks
with the token of the page that was loaded last. -/
theorem PageRequest.text_round_trip {σ : Type} (calls : Calls σ) (settings : CursorSettings)
    (watching : Bool) (uses : List ResultSet.Use) :
    (∀ r : PageRequest, ∃ j, Presents r.text j ∧ r.Shown j ∧ Json.read? r.text = some j ∧
      ∀ j', Presents r.text j' → j' = j) ∧
    (∀ r r' : PageRequest, r.text = r'.text → r = r') ∧
    (∀ (τ : Type) (q : QueryClient τ) (r r' : PageRequest),
      q.requestFor r' = (q.requestFor r).map fun request =>
        { request with body := some r'.text }) ∧
    (∀ (τ : Type) (q : QueryClient τ) (response : Response) (p : Page), q.pageOf response = .ok p →
      ∃ body j, response.text = .ok body ∧ Json.read? body = some j ∧ ∀ t,
        p.next = some t ↔ under (names Page.fields) "NextToken" j = [.text (some t)]) ∧
    Throughout (fun before x => ∃ j, Json.read? x.request.text = some j ∧
      Shown ⟨calls.query, (lastPage before).bind (·.next), x.request.maxRows⟩ j)
      ((Traffic.start calls settings watching).run uses).exchanges := by
  refine ⟨fun r => ⟨r.toJson, r.presents_text, r.toJson_shown, r.read?_text, fun j' hj' => ?_⟩,
    fun r r' => text_injective, fun τ q => q.requestFor_eq, fun τ q response p hp => ?_,
    fun before x after hx => ?_⟩
  · exact Option.some.inj ((read?_of_presents hj').symm.trans r.read?_text)
  · obtain ⟨body, hbody, hpage⟩ := QueryClient.read?_of_pageOf hp
    obtain ⟨j, hj, hnext⟩ := Page.next_eq_some_iff hpage
    exact ⟨body, j, hbody, hj, hnext⟩
  · have hstart := Traffic.sound_start calls settings watching
    have hsound : Traffic.Sound calls settings
        ((Traffic.start calls settings watching).run uses) :=
      Traffic.run_induction (fun _ u h => h.step u) hstart uses
    have hrequest := (hsound.linked.chained before x after hx).request
    refine ⟨x.request.toJson, x.request.read?_text, ?_⟩
    rw [hrequest]
    exact toJson_shown _

open Http in
/-- A token of a quote, a backslash, a control character and one beyond sixteen bits, written in the
answer by their code units: it is sent back, and after it the empty token, which is not sent as
none. -/
theorem PageRequest.text_of_rare_tokens :
    let rare := String.ofList ['"', '\\', Char.ofNat 1, Char.ofNat 0x1F600]
    let body := "\x7b\"NextToken\":\"\\u0022\\u005C\\u0001\\ud83d\\uDE00\"," ++
      "\"ResultSet\":\x7b\x7d\x7d"
    let bytes := body.toList.map (·.toNat.toUInt8)
    let response : Response := ⟨200, [], { pieces := [[0xEF, 0xBB, 0xBF], bytes] }⟩
    let row : Row := ⟨[some "a"]⟩
    let replies : List Service.Reply := [⟨.page { next := some rare, rows := [row, row] }, false⟩,
      ⟨.page { next := some "", rows := [row] }, false⟩, ⟨.page { rows := [row] }, false⟩]
    let calls : Calls (List Service.Reply) :=
      { query := "Q1", service := .script, state := replies }
    let xs := ((Traffic.start calls {} false).run [.operation (.relative 3)]).exchanges
    let q : QueryClient Unit :=
      ⟨⟨{}, .bearer "token", fun _ => true⟩, "http://localhost/", fun _ => "missing field"⟩
    let sent (token : Option String) : PageRequest := ⟨"Q1", token, 1000⟩
    let written := "\x7b\"QueryExecutionId\":\"Q1\",\"NextToken\":\"\",\"MaxResults\":1000\x7d"
    (q.pageOf response = .ok { next := some rare } ∧ ∃ j, Json.read? body = some j ∧
      under (names Page.fields) "NextToken" j = [.text (some rare)]) ∧
    xs.map (·.request) = [sent none, sent (some rare), sent (some "")] ∧
    (∃ x ∈ xs, ∃ j, Json.read? x.request.text = some j ∧ (sent (some rare)).Shown j) ∧
    (∃ j, Presents (sent (some rare)).text j ∧ (sent (some rare)).Shown j) ∧
    (sent (some "")).text ≠ (sent none).text ∧
    ∃ request, q.requestFor (sent (some "")) = .ok request ∧ request.body = some written := by
  intro rare body bytes response row replies calls xs q sent written
  obtain ⟨htext, hinj, hbody, hpage, hchain⟩ :=
    PageRequest.text_round_trip calls {} false [.operation (.relative 3)]
  refine ⟨⟨by decide +kernel, ?_⟩, by decide +kernel, ?_, ?_, ?_, ?_⟩
  · obtain ⟨body', j, hb, hj, hnext⟩ := hpage Unit q response { next := some rare } (by decide +kernel)
    have hbody' : response.text = .ok body := by decide +kernel
    cases hb.symm.trans hbody'
    exact ⟨j, hj, (hnext rare).mp rfl⟩
  · have hlen : 1 < xs.length := by decide +kernel
    have hsplit : xs = xs.take 1 ++ xs[1] :: xs.drop 2 := by
      rw [← List.drop_eq_getElem_cons hlen, List.take_append_drop]
    obtain ⟨j, hj, hshown⟩ := hchain _ _ _ hsplit
    have htoken : (lastPage (xs.take 1)).bind (·.next) = some rare := by decide +kernel
    have hrows : ∀ x ∈ xs, x.request.maxRows = 1000 := by decide +kernel
    rw [htoken, hrows _ (List.getElem_mem hlen)] at hshown
    exact ⟨xs[1], List.getElem_mem hlen, j, hj, hshown⟩
  · obtain ⟨j, hj, hshown, -⟩ := htext (sent (some rare))
    exact ⟨j, hj, hshown⟩
  · intro h
    cases hinj _ _ h
  · have hok : (q.requestFor (sent none)).isOk = true := by decide +kernel
    have hsame := hbody Unit q (sent none) (sent (some ""))
    rcases hr : q.requestFor (sent none) with e | request
    · rw [hr] at hok
      cases hok
    · rw [hr] at hsame
      have htext : (sent (some "")).text = written := by decide +kernel
      exact ⟨_, hsame, congrArg some htext⟩

end ResultFlow
