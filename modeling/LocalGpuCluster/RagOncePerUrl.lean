/-
This file proves which handlers yield each URL once, as the plan and the state take for granted. The files
of a repository are gathered by URL, and the URLs of a sitemap and of a list are a set before they are
fetched. Nothing does this for the entries of a feed: two entries with one permalink are two documents, and
the upload of the first is named by no entry of the state.
-/

import LocalGpuCluster.RagAttached
import LocalGpuCluster.RagHandlers

namespace LocalGpuCluster

namespace Rag

/-- No two entries of a feed that are not skipped have one permalink. -/
def DistinctPermalinks (config : RssConfig) (web : Web) (feed : List FeedEntry) : Prop :=
  ((feedWindow config feed).zipIdx.filter fun item =>
      (keptPermalink config item.1).any fun url => (keptContent web item.2 item.1 url).isSome).Pairwise
    fun first second => permalinkOf first.1 ≠ permalinkOf second.1

/-- Only the entries of a feed may repeat a URL. -/
def Handler.Distinct : Handler → Prop
  | rss _ config web feed => DistinctPermalinks config web feed
  | _ => True

/-- Each URL comes once in what a handler yields, and the state names each upload of a refresh. -/
structure OncePerUrl (handler : Handler) (prior : Documents) : Prop where
  unique : ∀ collection ∈ handler.collect prior, UniqueUrls collection.documents
  named : ∀ collection ∈ handler.collect prior, ∀ (digest : Digest) (source : Source) (run : Run)
    (world : World), world.documents = prior → run.collection = some collection → run.mode = .apply →
    gate source run (planOf digest source collection prior) = none →
    ∀ doc ∈ run.reachedUploads (planOf digest source collection prior), ∀ path,
      run.listedPath doc = some path →
        storedPath (refreshOne digest source run world).2.documents doc.url = some path

/-! ### Feeds -/

theorem keptPermalink_eq_some {config : RssConfig} {entry : FeedEntry} {url : Url}
    (kept : keptPermalink config entry = some url) : permalinkOf entry = .str url := by
  unfold keptPermalink at kept
  split at kept
  case h_1 permalink same =>
    split at kept
    · cases kept
    · split at kept
      · exact Option.some.inj kept ▸ same
      · cases kept
  case h_2 => cases kept

theorem rssDocument_eq_some {python : Python} {config : RssConfig} {web : Web} {index : ℕ}
    {entry : FeedEntry} {doc : Document} (made : rssDocument python config web index entry = some doc) :
    permalinkOf entry = .str doc.url := by
  obtain ⟨permalink, kept, mapped⟩ := Option.bind_eq_some_iff.mp made
  obtain ⟨content, -, rfl⟩ := Option.map_eq_some_iff.mp mapped
  exact keptPermalink_eq_some kept

/-- The entries that are not skipped are those that have a document. -/
theorem isSome_rssDocument (python : Python) (config : RssConfig) (web : Web) (index : ℕ)
    (entry : FeedEntry) : (rssDocument python config web index entry).isSome =
      (keptPermalink config entry).any fun url => (keptContent web index entry url).isSome := by
  unfold rssDocument
  cases keptPermalink config entry with
  | none => rfl
  | some url => exact Option.isSome_map

/-- The documents of a feed have different URLs exactly when the entries have different permalinks. -/
theorem unique_rss_iff (python : Python) (config : RssConfig) (web : Web) (feed : List FeedEntry) :
    UniqueUrls ((feedWindow config feed).zipIdx.filterMap fun item =>
        rssDocument python config web item.2 item.1) ↔ DistinctPermalinks config web feed := by
  unfold UniqueUrls DistinctPermalinks
  rw [List.Nodup, List.pairwise_map, List.pairwise_filterMap, List.pairwise_filter]
  refine List.Pairwise.iff fun first second => ?_
  simp only [← isSome_rssDocument python]
  constructor
  · intro apart isFirst isSecond same
    obtain ⟨doc, made⟩ := Option.isSome_iff_exists.mp isFirst
    obtain ⟨other, otherMade⟩ := Option.isSome_iff_exists.mp isSecond
    rw [rssDocument_eq_some made, rssDocument_eq_some otherMade] at same
    exact apart doc made other otherMade (Json.str.inj same)
  · intro apart doc made other otherMade same
    refine apart (by rw [made]; rfl) (by rw [otherMade]; rfl) ?_
    rw [rssDocument_eq_some made, rssDocument_eq_some otherMade, same]

/-! ### Repositories and lists of URLs -/

theorem unique_repo (sources : List SourceFile) : UniqueUrls ((byUrl sources).map repoDocument) := by
  have urls : ((byUrl sources).map repoDocument).map Document.url =
      Dictionary.firsts SourceFile.url sources := by
    rw [List.map_map, byUrl, Dictionary.gather_eq, List.map_map]
    exact List.map_id _
  rw [UniqueUrls, urls]
  exact Dictionary.nodup_firsts _ _

theorem budgeted_subset {urls : List Url} {budget : ℤ} {prior : Documents} {url : Url}
    (member : url ∈ budgeted urls budget prior) : url ∈ urls := by
  unfold budgeted at member
  split at member
  · exact LeastRecent.mem_of_mem_least member
  · exact member

theorem nodup_budgeted {urls : List Url} (nodup : urls.Nodup) (budget : ℤ) (prior : Documents) :
    (budgeted urls budget prior).Nodup := by
  unfold budgeted
  split
  · exact LeastRecent.nodup_least nodup
  · exact nodup

/-! ### All handlers -/

/-- What a handler yields has different URLs exactly where no permalink is repeated. -/
theorem unique_collect_iff (handler : Handler) (prior : Documents) :
    (∀ collection ∈ handler.collect prior, UniqueUrls collection.documents) ↔ handler.Distinct := by
  cases handler with
  | githubRepo lower config files =>
    refine iff_of_true (fun collection collected => ?_) trivial
    obtain ⟨sources, -, rfl⟩ := Option.map_eq_some_iff.mp (show _ = some collection from collected)
    exact unique_repo sources
  | sphinxSitemap config upstream crawl =>
    exact iff_of_true (fun collection collected => unique_documents collected) trivial
  | hugoSitemap => exact iff_of_true (fun collection collected => by cases collected) trivial
  | rss python config web feed =>
    show (∀ collection ∈ collectRss python config web feed, _) ↔ DistinctPermalinks config web feed
    rw [← unique_rss_iff python]
    unfold collectRss
    dsimp only
    split
    case isTrue none =>
      refine iff_of_true (fun collection collected => by cases collected) ?_
      rw [none]
      exact List.nodup_nil
    case isFalse =>
      refine ⟨fun unique => unique _ rfl, fun unique collection collected => ?_⟩
      obtain rfl := Option.some.inj collected
      exact unique
  | urlListHashed config crawl =>
    refine iff_of_true (fun collection collected => ?_) trivial
    obtain ⟨urls, loaded, made⟩ := Option.bind_eq_some_iff.mp (show _ = some collection from collected)
    obtain ⟨lines, -, rfl⟩ := Option.map_eq_some_iff.mp loaded
    split at made
    · cases made
    · obtain rfl := Option.some.inj made
      exact unique_completed crawl (nodup_budgeted (Dictionary.nodup_firsts _ _) _ _)

/-- What a handler yields is among what it enumerates, if it enumerates anything. -/
theorem known_collect {handler : Handler} {prior : Documents} {collection : Collection}
    (collected : handler.collect prior = some collection) :
    Known collection.documents collection.knownUrls := by
  -- a handler that reports nothing but what it yields
  have quiet : collection.discoveredUrls = [] → Known collection.documents collection.knownUrls := by
    intro none known isKnown
    rw [Collection.knownUrls, none] at isKnown
    cases isKnown
  -- a handler that reports what it enumerates
  have loud : (∀ doc ∈ collection.documents, doc.url ∈ collection.discoveredUrls) →
      Known collection.documents collection.knownUrls := by
    intro within known isKnown doc member
    unfold Collection.knownUrls at isKnown
    split at isKnown
    · cases isKnown
    · exact Option.some.inj isKnown ▸ within doc member
  cases handler with
  | githubRepo lower config files =>
    obtain ⟨sources, -, rfl⟩ := Option.map_eq_some_iff.mp collected
    exact quiet rfl
  | sphinxSitemap config upstream crawl =>
    have made : (sitemapOf config upstream).collect crawl prior = some collection := collected
    unfold Sitemap.collect at made
    split at made
    · cases made
    · obtain rfl := Option.some.inj made
      exact loud fun doc member => mem_of_mem_attempted (url_mem_of_completed member)
  | hugoSitemap => cases collected
  | rss python config web feed =>
    have made : collectRss python config web feed = some collection := collected
    unfold collectRss at made
    dsimp only at made
    split at made
    · cases made
    · obtain rfl := Option.some.inj made
      exact quiet rfl
  | urlListHashed config crawl =>
    obtain ⟨urls, -, made⟩ := Option.bind_eq_some_iff.mp collected
    split at made
    · cases made
    · obtain rfl := Option.some.inj made
      exact loud fun doc member => budgeted_subset (url_mem_of_completed member)

/-- Where each URL comes once, the state names each upload, also when the run is interrupted. -/
theorem named_of_unique {collection : Collection} (unique : UniqueUrls collection.documents)
    (known : Known collection.documents collection.knownUrls) (digest : Digest) (source : Source)
    (run : Run) (world : World) (collected : run.collection = some collection)
    (applies : run.mode = .apply)
    (passed : gate source run (planOf digest source collection world.documents) = none) {doc : Document}
    (reached : doc ∈ run.reachedUploads (planOf digest source collection world.documents)) {path : Path}
    (listed : run.listedPath doc = some path) :
    storedPath (refreshOne digest source run world).2.documents doc.url = some path := by
  have accepted : run.upload doc ≠ .raised := fun raised => by
    rw [Run.listedPath, raised] at listed
    cases listed
  have applied : refreshOne digest source run world = applyPlan digest source run collection
      (planOf digest source collection world.documents) world := by
    simp only [refreshOne, collected, passed, applies]
  have entry : (refreshOne digest source run world).2.documents.lookup doc.url =
      some (run.entryOf digest doc) := by
    rw [applied]
    cases whole : run.interruptedAfter with
    | none =>
      have queued : doc ∈ (planOf digest source collection world.documents).uploadQueue := by
        rwa [Run.reachedUploads, whole] at reached
      exact storedPath_uploaded unique known whole queued accepted
    | some count =>
      have queue : UniqueUrls (run.reachedUploads (planOf digest source collection world.documents)) := by
        rw [Run.reachedUploads, whole]
        exact (unique_uploadQueue unique).sublist (List.take_sublist _ _)
      have saved : (applyPlan digest source run collection
          (planOf digest source collection world.documents) world).2.documents =
          (uploads digest run collection (planOf digest source collection world.documents)
            world.documents).saved := by
        unfold applyPlan
        rw [whole]
        rfl
      rw [saved, uploads, saved_uploads (.inr ⟨doc, reached, accepted⟩)]
      exact lookup_uploads_of_listed queue reached accepted
  rw [storedPath, entry]
  exact listed

/-- A handler yields each URL once, and the state names each upload, exactly where no two entries of a
feed that are not skipped have one permalink. -/
theorem oncePerUrl_iff (handler : Handler) (prior : Documents) :
    OncePerUrl handler prior ↔ handler.Distinct := by
  constructor
  · exact fun once => (unique_collect_iff handler prior).mp once.unique
  · intro distinct
    have unique := (unique_collect_iff handler prior).mpr distinct
    refine ⟨unique, fun collection collected digest source run world => ?_⟩
    rintro rfl isCollection applies passed doc reached path listed
    exact named_of_unique (unique collection collected) (known_collect collected) digest source run world
      isCollection applies passed reached listed

/-- Two entries with one permalink and a text each. -/
def repeatedFeed : List FeedEntry :=
  [[(text "link", .str (text "https://x/a")), (text "summary", .str (text "first"))],
    [(text "link", .str (text "https://x/a")), (text "summary", .str (text "second"))]]

/-- A feed with an entry that comes twice. -/
def repeatedHandler : Handler :=
  .rss .exact ⟨none, 50⟩ ⟨fun _ _ => none, fun _ => none⟩ repeatedFeed

/-- Both entries are collected, with one URL. -/
theorem repeated_permalink : ¬ OncePerUrl repeatedHandler ∅ := by
  intro once
  have urls : (repeatedHandler.collect ∅).map (fun collection => collection.documents.map Document.url) =
      some [text "https://x/a", text "https://x/a"] := by decide
  obtain ⟨collection, collected, same⟩ := Option.map_eq_some_iff.mp urls
  have unique := once.unique collection collected
  rw [UniqueUrls, same] at unique
  exact absurd unique (by decide)

end Rag

end LocalGpuCluster
