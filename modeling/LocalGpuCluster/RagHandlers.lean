/-
This file models what the handlers of `scripts/rag/handlers` collect: the documents of a feed, of the files
of a repository, of the pages of a sitemap and of a list of URLs, and the URL that each of them is given.
What a server answers, and what the extraction makes of a page, is a parameter.
-/

import LocalGpuCluster.Dictionary
import LocalGpuCluster.Json
import LocalGpuCluster.RagCrawl
import LocalGpuCluster.SourceInterleave
import Mathlib.Data.List.MinMax

namespace LocalGpuCluster

namespace Rag

/-! ### `rss` -/

structure RssConfig where
  urlDomainFilter : Option (Text → Bool)
  maxEntries : ℤ

/-- An entry as `feedparser` gives it. -/
abbrev FeedEntry := List (Text × Json)

/-- What the server answers to the request for an entry, and what `trafilatura` extracts of a page. -/
structure Web where
  /-- `requests.get` and `raise_for_status`, for the entry at an index; `none` when they raise. -/
  get : ℕ → Url → Option Text
  extract : Text → Option Text

/-- `entry.get("link") or entry.get("id")`. -/
def permalinkOf (entry : FeedEntry) : Json :=
  (Json.getIn entry (text "link")).orElse (Json.getIn entry (text "id"))

/-- The text of a part of the content. -/
def partText : Json → Option Text
  | .obj fields =>
      match Json.getIn fields (text "value") with
      | .str value => some value
      | _ => none
  | .str value => some value
  | _ => none

def isBlank (content : Text) : Bool := Text.strip CodePoint.isSpace content = []

/-- The text under a key, unless it is blank. -/
def snippet (entry : FeedEntry) (key : Text) : Option Text :=
  match Json.getIn entry key with
  | .str value => if isBlank value then none else some value
  | _ => none

/-- `_feed_content`. -/
def feedContent (entry : FeedEntry) : Option Text :=
  let parts := match entry.lookup (text "content") with
    | some (.arr contents) => contents.filterMap partText
    | _ => []
  ((parts.argmax List.length).orElse fun _ => snippet entry (text "summary")).orElse fun _ =>
    snippet entry (text "description")

/-- `_extract_content`, without whether the page was fetched. -/
def extractContent (web : Web) (index : ℕ) (entry : FeedEntry) (url : Url) : Option Text :=
  match (feedContent entry).filter fun content => 1000 < content.length with
  | some content => some content
  | none =>
      match web.get index url with
      | none => feedContent entry
      | some page =>
          ((web.extract page).filter fun content => 50 ≤ (Text.strip CodePoint.isSpace content).length).orElse
            fun _ => feedContent entry

/-- The header of a document of a feed. -/
def rssHeader (python : Python) (entry : FeedEntry) (permalink : Text) : Text :=
  let title := (Json.getIn entry (text "title")).orElse (.str (text "(no title)"))
  let published := ((Json.getIn entry (text "published")).orElse (Json.getIn entry (text "updated"))).orElse
    (.str [])
  text "Source: " ++ permalink ++ text "\nURL: " ++ permalink ++ text "\nTitle: " ++
    title.toStr python ++ newline ++
    (if published.truthy then text "Published: " ++ published.toStr python ++ newline else []) ++ newline

/-- The permalink of an entry that is not skipped for it. -/
def keptPermalink (config : RssConfig) (entry : FeedEntry) : Option Url :=
  match permalinkOf entry with
  | .str permalink =>
      if isBlank permalink then none
      else if config.urlDomainFilter.all fun search => search permalink then some permalink
      else none
  | _ => none

/-- The content of an entry that is not skipped for it. -/
def keptContent (web : Web) (index : ℕ) (entry : FeedEntry) (url : Url) : Option Text :=
  (extractContent web index entry url).filter fun content => !isBlank content

/-- The document of an entry, unless the entry is skipped. -/
def rssDocument (python : Python) (config : RssConfig) (web : Web) (index : ℕ) (entry : FeedEntry) :
    Option Document :=
  (keptPermalink config entry).bind fun permalink =>
    (keptContent web index entry permalink).map fun content =>
      ⟨permalink, rssHeader python entry permalink ++ content⟩

/-- `feed.entries[:max_entries]`. -/
def feedWindow (config : RssConfig) (feed : List FeedEntry) : List FeedEntry :=
  feed.take (sliceCount config.maxEntries feed.length)

/-- `RssHandler.collect`; `none` when it raises. -/
def collectRss (python : Python) (config : RssConfig) (web : Web) (feed : List FeedEntry) :
    Option Collection :=
  let entries := feedWindow config feed
  if entries = [] then none
  else
    some ⟨entries.zipIdx.filterMap fun item => rssDocument python config web item.2 item.1, []⟩

/-! ### `github_repo` -/

structure GitHubConfig where
  pathStrip : Text
  renderedBase : Text
  urlExtFrom : Text
  urlExtTo : Text
  urlKeepDepth : Option ℤ
  urlLowercase : Bool
  urlEncodeSpaces : Bool
  fileExclude : Option (Text → Bool)

/-- A file that `git ls-files` lists; an unreadable one has no content. -/
structure RepoFile where
  relPath : Text
  content : Option Text
  lastModified : Text

def slash : CodePoint := 0x2F

/-- `content.lstrip("/")`. -/
def lstripSlash (content : Text) : Text := content.dropWhile (· = slash)

/-- `content.rstrip("/")`. -/
def rstripSlash (content : Text) : Text := Text.stripRight (· = slash) content

/-- `_strip_prefix`. -/
def stripPrefix (relPath prefix' : Text) : Option Text :=
  if prefix' = [] then some relPath
  else if relPath.startsWith prefix' then some (relPath.drop prefix'.length)
  else none

/-- The UTF-8 bytes of a code point that is no surrogate. -/
def utf8Bytes (point : CodePoint) : List ℕ :=
  let value := point.val
  if value < 0x80 then [value]
  else if value < 0x800 then [0xC0 + value / 64, 0x80 + value % 64]
  else if value < 0x10000 then [0xE0 + value / 4096, 0x80 + value / 64 % 64, 0x80 + value % 64]
  else [0xF0 + value / 262144, 0x80 + value / 4096 % 64, 0x80 + value / 64 % 64, 0x80 + value % 64]

/-- A byte that `quote(…, safe="/")` keeps. -/
def isSafeByte (byte : ℕ) : Bool :=
  0x30 ≤ byte && byte ≤ 0x39 || 0x41 ≤ byte && byte ≤ 0x5A || 0x61 ≤ byte && byte ≤ 0x7A ||
    [0x5F, 0x2E, 0x2D, 0x7E, 0x2F].contains byte

def hexDigit (value : ℕ) : CodePoint :=
  if value < 10 then Fin.ofNat 0x110000 (0x30 + value) else Fin.ofNat 0x110000 (0x41 + (value - 10))

def quoteByte (byte : ℕ) : Text :=
  if isSafeByte byte then [Fin.ofNat 0x110000 byte] else [0x25, hexDigit (byte / 16), hexDigit (byte % 16)]

/-- `urllib.parse.quote(content, safe="/")`; a surrogate raises. -/
def quote (content : Text) : Option Text :=
  if content.hasSurrogate then none else some ((content.flatMap utf8Bytes).flatMap quoteByte)

/-- `"/".join(stripped.split("/")[:keep_depth])`. -/
def keepDepth (depth : ℤ) (stripped : Text) : Text :=
  Text.join [slash] ((stripped.splitOn slash).take depth.toNat)

/-- `_build_url`, with `str.lower`; `none` when it raises. -/
def buildUrl (lower : Text → Text) (config : GitHubConfig) (stripped : Text) : Option Url :=
  let stem :=
    if config.urlExtFrom ≠ [] ∧ config.urlExtFrom.isSuffixOf stripped = true then
      stripped.take (stripped.length - config.urlExtFrom.length)
    else stripped
  let kept := match config.urlKeepDepth.filter fun depth => 0 < depth with
    | some depth => keepDepth depth stem
    | none => stem
  let named :=
    if config.urlExtTo = [] then kept
    else if config.urlExtTo = [slash] then if [slash].isSuffixOf kept then kept else kept ++ [slash]
    else kept ++ config.urlExtTo
  let cased := if config.urlLowercase then lower named else named
  (if config.urlEncodeSpaces then quote cased else some cased).map fun path =>
    rstripSlash config.renderedBase ++ [slash] ++ lstripSlash path

/-- The path without its prefix and the content of a file that is not skipped. -/
def keptFile (config : GitHubConfig) (file : RepoFile) : Option (Text × Text) :=
  (stripPrefix file.relPath (lstripSlash config.pathStrip)).bind fun stripped =>
    if config.fileExclude.any fun search => search file.relPath then none
    else (file.content.filter fun content => !isBlank content).map fun content => (stripped, content)

/-- A file that is not skipped: its URL, its content and when it was last modified. -/
structure SourceFile where
  url : Url
  content : Text
  lastModified : Text

/-- The loop over the files; `none` when the URL of one raises. -/
def sourceFiles (lower : Text → Text) (config : GitHubConfig) (files : List RepoFile) :
    Option (List SourceFile) :=
  (files.filterMap fun file => (keptFile config file).map fun kept => (file, kept)).mapM
    fun (file, stripped, content) =>
      (buildUrl lower config stripped).map fun url => ⟨url, content, file.lastModified⟩

/-- `by_url`. -/
def byUrl (sources : List SourceFile) : List (Url × List SourceFile) :=
  Dictionary.gather SourceFile.url [] (fun entry source => entry ++ [source]) sources

/-- The document of a URL. -/
def repoDocument (entry : Url × List SourceFile) : Document :=
  let lastModified := ((entry.2.map SourceFile.lastModified).filter (· ≠ [])).max?.getD []
  let body := Text.join (text "\n\n---\n\n") (entry.2.map SourceFile.content)
  ⟨entry.1, text "Source: " ++ entry.1 ++ text "\nURL: " ++ entry.1 ++ text "\nLast-modified: " ++
    lastModified ++ text "\n\n" ++ SourceInterleave.interleaveSource body entry.1⟩

/-- `GitHubRepoHandler.collect`. -/
def collectRepo (lower : Text → Text) (config : GitHubConfig) (files : List RepoFile) :
    Option Collection :=
  (sourceFiles lower config files).map fun sources => ⟨(byUrl sources).map repoDocument, []⟩

/-! ### `sphinx_sitemap` -/

structure SphinxConfig where
  searchindexUrl : Url
  sitemapUrl : Url
  baseUrl : Url
  fallbackIndexPages : List Text
  include_ : Option (Text → Bool)
  exclude : Option (Text → Bool)
  maxUrlsPerRun : ℤ

/-- What is read upstream. -/
structure Upstream where
  /-- The `docnames` of a search index; `none` when it cannot be fetched or parsed. -/
  docnames : Url → Option (List Text)
  /-- Whether a sitemap is an index, and its `<loc>`s; `none` when it cannot be fetched or parsed. -/
  sitemap : Url → Option (Bool × List Text)
  /-- The `href`s to pages in an index page; `none` when it cannot be fetched. -/
  hrefs : Url → Option (List Text)
  /-- `urllib.parse.urljoin`. -/
  urljoin : Url → Text → Url

/-- `_try_searchindex`, not yet sorted. -/
def trySearchindex (upstream : Upstream) (url base : Url) : List Url :=
  ((upstream.docnames url).getD []).map fun name => base ++ [slash] ++ name ++ text ".html"

/-- `_fetch_sitemap_locs`. -/
def fetchSitemapLocs (upstream : Upstream) (url : Url) : List Url × Bool :=
  match upstream.sitemap url with
  | none => ([], false)
  | some (isIndex, locs) => (locs.map fun loc => Text.strip CodePoint.isSpace loc, isIndex)

/-- `_try_sitemap`. -/
def trySitemap (upstream : Upstream) (url : Url) : List Url :=
  let (locs, isIndex) := fetchSitemapLocs upstream url
  if isIndex then
    locs.flatMap fun child =>
      let (childLocs, childIsIndex) := fetchSitemapLocs upstream child
      if childIsIndex then [] else childLocs
  else locs

/-- `_try_fallback_index`. -/
def tryFallbackIndex (upstream : Upstream) (base : Url) (pages : List Text) : List Url :=
  pages.flatMap fun page =>
    ((upstream.hrefs (base ++ [slash] ++ lstripSlash page)).getD []).map fun href =>
      if href.startsWith (text "http") then href
      else if href.startsWith [slash] then upstream.urljoin (base ++ [slash]) href
      else base ++ [slash] ++ href

/-- `_collect_urls`, before the URLs are sorted. -/
def collectUrls (config : SphinxConfig) (upstream : Upstream) : List Url :=
  let base := rstripSlash config.baseUrl
  let indexed :=
    if config.searchindexUrl = [] then [] else trySearchindex upstream config.searchindexUrl base
  let listed := if indexed = [] then trySitemap upstream config.sitemapUrl else indexed
  let urls :=
    if listed = [] then tryFallbackIndex upstream base config.fallbackIndexPages else listed
  urls.filter fun url =>
    (config.include_.all fun search => search url) && !(config.exclude.any fun search => search url)

/-- `sorted(set(urls))`. -/
def sortedSet (urls : List Url) : List Url := urls.dedup.insertionSort (· ≤ ·)

theorem nodup_sortedSet (urls : List Url) : (sortedSet urls).Nodup :=
  (List.perm_insertionSort _ _).nodup_iff.mpr (List.nodup_dedup urls)

theorem sorted_sortedSet (urls : List Url) : (sortedSet urls).Pairwise (· < ·) :=
  ((List.pairwise_insertionSort _ _).and (nodup_sortedSet urls)).imp fun ⟨le, ne⟩ => lt_of_le_of_ne le ne

/-- The pages that a run of the handler enumerates. -/
def sitemapOf (config : SphinxConfig) (upstream : Upstream) : Sitemap :=
  ⟨sortedSet (collectUrls config upstream), config.maxUrlsPerRun, sorted_sortedSet _⟩

/-! ### `url_list_hashed` -/

structure UrlListConfig where
  /-- The text of `url_list_file` when one is configured; `none` in it when there is no such file. -/
  urlListFile : Option (Option Text)
  urls : List Url
  maxUrlsPerRun : ℤ

/-- The URLs in the text of a `url_list_file`. -/
def listedLines (content : Text) : List Url :=
  ((Text.splitLines content).map fun line => Text.strip CodePoint.isSpace line).filter fun line =>
    line ≠ [] && !line.startsWith (text "#")

/-- `_load_urls`; `none` when it raises. -/
def loadUrls (config : UrlListConfig) : Option (List Url) :=
  let lines := match config.urlListFile with
    | none => some []
    | some content => content.map listedLines
  lines.map fun lines => Dictionary.firsts id (lines ++ config.urls)

/-- The URLs whose fetch is attempted. -/
def budgeted (urls : List Url) (budget : ℤ) (prior : Documents) : List Url :=
  if budget ≠ 0 ∧ budget < urls.length then prioritise urls prior budget else urls

/-- `UrlListHashedHandler.collect`. -/
def collectList (config : UrlListConfig) (crawl : Crawl) (prior : Documents) : Option Collection :=
  (loadUrls config).bind fun urls =>
    if urls = [] then none
    else
      some ⟨crawl.completed ((budgeted urls config.maxUrlsPerRun prior).filterMap crawl.fetchOne), urls⟩

/-! ### All handlers -/

/-- A handler with its configuration and with what it finds. -/
inductive Handler where
  | githubRepo (lower : Text → Text) (config : GitHubConfig) (files : List RepoFile)
  | sphinxSitemap (config : SphinxConfig) (upstream : Upstream) (crawl : Crawl)
  | hugoSitemap
  | rss (python : Python) (config : RssConfig) (web : Web) (feed : List FeedEntry)
  | urlListHashed (config : UrlListConfig) (crawl : Crawl)

/-- `collect`; `none` when it raises. -/
def Handler.collect (handler : Handler) (prior : Documents) : Option Collection :=
  match handler with
  | githubRepo lower config files => collectRepo lower config files
  | sphinxSitemap config upstream crawl => (sitemapOf config upstream).collect crawl prior
  | hugoSitemap => none
  | rss python config web feed => collectRss python config web feed
  | urlListHashed config crawl => collectList config crawl prior

end Rag

end LocalGpuCluster
