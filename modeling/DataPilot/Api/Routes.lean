import DataPilot.Base.CaseFold
import DataPilot.Base.PosixPath
import DataPilot.Base.Text
import DataPilot.Tools.ReplacePrefix

set_option autoImplicit false

namespace DataPilot.Api

open DataPilot.Base
open DataPilot.Tools.Shared (startsWith)

inductive Handler where
  | live
  | ready
  | register
  | login
  | logout
  | me
  | createConversation
  | listConversations
  | getConversation
  | streamMessage
  | abortMessage
  | archiveConversation
  | unarchiveConversation
  | deleteConversation
  | uploadDataset
  | listDatasets
  | getDataset
  | deleteDataset
  | previewDataset
  | usageSummary
  | usageRecords
  | traceDetail
  | downloadArtifact
deriving DecidableEq

-- The handlers that depend on get_workspace_id.
def Handler.workspaceBound : Handler → Bool
  | .live => false
  | .ready => false
  | .register => false
  | .login => false
  | .logout => false
  | .me => false
  | _ => true

inductive Segment where
  | text (value : String)
  | parameter
deriving DecidableEq

structure Route where
  method : String
  segments : List Segment
  handler : Handler

-- The routes of api_router, after the empty segment before the first slash.
def api (method : String) (segments : List Segment) (handler : Handler) : Route :=
  ⟨method, .text "" :: .text "api" :: segments, handler⟩

def routes : List Route := [
  api "GET" [.text "health", .text "live"] .live,
  api "GET" [.text "health", .text "ready"] .ready,
  api "POST" [.text "auth", .text "register"] .register,
  api "POST" [.text "auth", .text "login"] .login,
  api "POST" [.text "auth", .text "logout"] .logout,
  api "GET" [.text "auth", .text "me"] .me,
  api "POST" [.text "conversations"] .createConversation,
  api "GET" [.text "conversations"] .listConversations,
  api "GET" [.text "conversations", .parameter] .getConversation,
  api "POST" [.text "conversations", .parameter, .text "messages", .text "stream"] .streamMessage,
  api "POST" [.text "conversations", .parameter, .text "messages", .parameter, .text "abort"] .abortMessage,
  api "POST" [.text "conversations", .parameter, .text "archive"] .archiveConversation,
  api "POST" [.text "conversations", .parameter, .text "unarchive"] .unarchiveConversation,
  api "DELETE" [.text "conversations", .parameter] .deleteConversation,
  api "POST" [.text "datasets", .text "upload"] .uploadDataset,
  api "GET" [.text "datasets"] .listDatasets,
  api "GET" [.text "datasets", .parameter] .getDataset,
  api "DELETE" [.text "datasets", .parameter] .deleteDataset,
  api "GET" [.text "datasets", .parameter, .text "preview"] .previewDataset,
  api "GET" [.text "observability", .text "summary"] .usageSummary,
  api "GET" [.text "observability", .text "usage"] .usageRecords,
  api "GET" [.text "observability", .text "traces", .parameter] .traceDetail,
  api "GET" [.text "artifacts", .parameter] .downloadArtifact]

def fits : List Segment → List String → Bool
  | [], [] => true
  | .text value :: segments, part :: parts => decide (part = value) && fits segments parts
  | .parameter :: segments, part :: parts => decide (part ≠ "") && fits segments parts
  | _, _ => false

-- What the $ of a route's expression ends: the path, or what is before a last line feed.
def endings (path : String) : List String :=
  if path.toList.getLast? = some '\n' then [path, String.ofList path.toList.dropLast] else [path]

-- The first route of the method whose expression matches the path.
def route (method path : String) : Option Handler :=
  (routes.find? fun route =>
    route.method = method && (endings path).any fun text => fits route.segments (splitSlash text)).map Route.handler

def publicPaths : List String := ["/api/auth/login", "/api/auth/register", "/api/health/live", "/api/health/ready"]

def isPublic (path : String) : Bool :=
  decide (path ∈ publicPaths) || startsWith path "/docs" || startsWith path "/redoc" || decide (path = "/openapi.json") ||
    !startsWith path "/api/"

def isAuthEndpoint (path : String) : Bool := path ∈ ["/api/auth/login", "/api/auth/register"]

-- Methods are ASCII tokens.
def upper (method : String) : String := String.ofList (method.toList.map Char.toUpper)

def shouldLimit (method path : String) : Bool :=
  if upper method = "OPTIONS" || !startsWith path "/api/" then false
  else !(["/api/health/", "/docs", "/redoc", "/openapi.json"].any fun start => startsWith path start)

-- Where a bound handler lies.
def boundParts : List String := ["conversations", "datasets", "observability", "artifacts"]

theorem fits_text (value : String) (segments : List Segment) (parts : List String)
    (fit : fits (.text value :: segments) parts = true) : ∃ rest, parts = value :: rest ∧ fits segments rest = true := by
  cases parts with
  | nil => simp [fits] at fit
  | cons part rest =>
      simp only [fits, Bool.and_eq_true, decide_eq_true_eq] at fit
      exact ⟨rest, by rw [fit.1], fit.2⟩

theorem bound_routes : ∀ route ∈ routes, route.handler.workspaceBound = true →
    ∃ part ∈ boundParts, ∃ segments, route.segments = .text "" :: .text "api" :: .text part :: segments := by
  simp only [routes, List.forall_mem_cons, api, Handler.workspaceBound]
  simp [boundParts]

theorem mem_endings (path text : String) (ends : text ∈ endings path) :
    path.toList = text.toList ∨ path.toList = text.toList ++ ['\n'] := by
  unfold endings at ends
  split at ends
  · rename_i last
    simp only [List.mem_cons, List.not_mem_nil, or_false] at ends
    rcases ends with rfl | rfl
    · exact .inl rfl
    · rw [String.toList_ofList]
      exact .inr (List.dropLast_append_getLast? _ last).symm
  · rw [List.mem_singleton.mp ends]
    exact .inl rfl

theorem bound_path (method path : String) (handler : Handler) (found : route method path = some handler)
    (bound : handler.workspaceBound = true) :
    ∃ text ∈ endings path, ∃ part ∈ boundParts, ∃ rest, splitSlash text = "" :: "api" :: part :: rest := by
  obtain ⟨taken, first, rfl⟩ := Option.map_eq_some_iff.mp found
  have member := List.mem_of_find?_eq_some first
  have passes := List.find?_some first
  rw [Bool.and_eq_true] at passes
  obtain ⟨part, known, segments, same⟩ := bound_routes taken member bound
  obtain ⟨text, ends, fit⟩ := List.any_eq_true.mp passes.2
  rw [same] at fit
  obtain ⟨afterRoot, parts, fit⟩ := fits_text "" _ _ fit
  obtain ⟨afterApi, apiParts, fit⟩ := fits_text "api" _ _ fit
  obtain ⟨rest, partParts, _⟩ := fits_text part _ _ fit
  exact ⟨text, ends, part, known, rest, by rw [parts, apiParts, partParts]⟩

theorem split_cut (front rest : List Char) :
    splitSlash (String.ofList (front ++ '/' :: rest)) = splitSlash (String.ofList front) ++ splitSlash (String.ofList rest) := by
  simp only [splitSlash, String.toList_ofList, List.splitOn_append_cons_self, List.map_append]

theorem starts_with_iff (text start : String) : startsWith text start = true ↔ ∃ rest, text.toList = start.toList ++ rest := by
  rw [startsWith, List.isPrefixOf_iff_prefix]
  constructor
  · intro front
    obtain ⟨rest, same⟩ := front
    exact ⟨rest, same.symm⟩
  · intro front
    obtain ⟨rest, same⟩ := front
    exact ⟨rest, same.symm⟩

theorem api_letters (path part : String) (rest : List String) (parts : splitSlash path = "" :: "api" :: part :: rest) :
    ∃ tail, path.toList = '/' :: 'a' :: 'p' :: 'i' :: '/' :: tail := by
  rw [← join_split path, parts]
  refine ⟨['/'].intercalate ((part :: rest).map String.toList), ?_⟩
  simp [joinSlash, List.intercalate]

theorem bound_part_only (path part : String) (rest : List String) (parts : splitSlash path = "" :: "api" :: part :: rest)
    (known : part ∈ boundParts) : path ∉ publicPaths ∧ startsWith path "/api/health/" = false := by
  have other : part ≠ "auth" ∧ part ≠ "health" := by
    revert known
    unfold boundParts
    simp only [List.mem_cons, List.not_mem_nil, or_false]
    rintro (rfl | rfl | rfl | rfl) <;> decide
  constructor
  · intro member
    simp only [publicPaths, List.mem_cons, List.not_mem_nil, or_false] at member
    have split : ∀ literal known rest, splitSlash literal = "" :: "api" :: known :: rest → path = literal → part = known := by
      intro literal known others same equal
      rw [equal, same] at parts
      simp only [List.cons.injEq, true_and] at parts
      exact parts.1.symm
    obtain same | same | same | same := member
    · exact other.1 (split _ "auth" ["login"] (by decide) same)
    · exact other.1 (split _ "auth" ["register"] (by decide) same)
    · exact other.2 (split _ "health" ["live"] (by decide) same)
    · exact other.2 (split _ "health" ["ready"] (by decide) same)
  · rw [Bool.eq_false_iff]
    intro started
    obtain ⟨tail, letters⟩ := (starts_with_iff path "/api/health/").mp started
    have cut := split_cut "/api/health".toList tail
    have whole : path = String.ofList ("/api/health".toList ++ '/' :: tail) := by
      apply String.toList_inj.mp
      rw [letters]
      simp
    have front : splitSlash (String.ofList "/api/health".toList) = ["", "api", "health"] := by decide
    rw [← whole, front, parts] at cut
    simp only [List.cons_append, List.cons.injEq, true_and] at cut
    exact other.2 cut.1

theorem route_method (method path : String) (handler : Handler) (found : route method path = some handler) :
    upper method ≠ "OPTIONS" := by
  obtain ⟨taken, first, _⟩ := Option.map_eq_some_iff.mp found
  have member := List.mem_of_find?_eq_some first
  have passes := List.find?_some first
  simp only [Bool.and_eq_true, decide_eq_true_eq] at passes
  have methods : ∀ route ∈ routes, upper route.method ≠ "OPTIONS" := by decide
  rw [← passes.1]
  exact methods taken member

theorem ended_only (path text : String) (ends : text ∈ endings path) (hidden : text ∉ publicPaths)
    (unhealthy : startsWith text "/api/health/" = false) : path ∉ publicPaths ∧ startsWith path "/api/health/" = false := by
  rcases mem_endings path text ends with same | longer
  · rw [String.toList_inj.mp same]
    exact ⟨hidden, unhealthy⟩
  · constructor
    · intro member
      have solid : ∀ known ∈ publicPaths, known.toList.getLast? ≠ some '\n' := by decide
      apply solid path member
      rw [longer, List.getLast?_concat]
    · rw [Bool.eq_false_iff] at unhealthy ⊢
      intro started
      rw [startsWith, longer, List.isPrefixOf_iff_prefix, List.prefix_concat_iff] at started
      rcases started with whole | front
      · have last := congrArg List.getLast? whole
        rw [List.getLast?_concat] at last
        exact absurd last (by decide)
      · exact unhealthy (List.isPrefixOf_iff_prefix.mpr front)

theorem bound_guarded (method path : String) (handler : Handler) (found : route method path = some handler)
    (bound : handler.workspaceBound = true) :
    isPublic path = false ∧ isAuthEndpoint path = false ∧ shouldLimit method path = true := by
  obtain ⟨text, ends, part, known, rest, parts⟩ := bound_path method path handler found bound
  obtain ⟨textTail, textLetters⟩ := api_letters text part rest parts
  obtain ⟨textHidden, textUnhealthy⟩ := bound_part_only text part rest parts known
  obtain ⟨hidden, unhealthy⟩ := ended_only path text ends textHidden textUnhealthy
  obtain ⟨tail, letters⟩ : ∃ tail, path.toList = '/' :: 'a' :: 'p' :: 'i' :: '/' :: tail := by
    rcases mem_endings path text ends with same | longer
    · exact ⟨textTail, same.trans textLetters⟩
    · exact ⟨textTail ++ ['\n'], by rw [longer, textLetters]; rfl⟩
  have method := route_method method path handler found
  have under : startsWith path "/api/" = true := (starts_with_iff path "/api/").mpr ⟨tail, letters⟩
  have docs : startsWith path "/docs" = false := by simp [startsWith, letters, List.isPrefixOf]
  have redoc : startsWith path "/redoc" = false := by simp [startsWith, letters, List.isPrefixOf]
  have openapi : startsWith path "/openapi.json" = false := by simp [startsWith, letters, List.isPrefixOf]
  have json : path ≠ "/openapi.json" := by
    rintro rfl
    simp at letters
  have elsewhere : path ∉ ["/api/auth/login", "/api/auth/register"] := fun member => hidden (by
    simp only [publicPaths, List.mem_cons, List.not_mem_nil, or_false] at member ⊢
    exact member.elim .inl fun later => .inr (.inl later))
  refine ⟨?_, ?_, ?_⟩
  · simp [isPublic, hidden, docs, redoc, json, under]
  · simp only [isAuthEndpoint, elsewhere, decide_false]
  · simp [shouldLimit, method, under, unhealthy, docs, redoc, openapi]

end DataPilot.Api
