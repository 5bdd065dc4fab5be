import AccessReport.Sketch.Basic
/-!
# Sample scans

Sketches of the scans that are used for trying out reports.
-/
namespace AccessReport.Samples

open Sketch

/-- A rule that fails with one node, one of whose `all` checks does not hold
(`image_alt_violation`). -/
def imageAltViolation : List Step := [
  .url "https://example.com/products",
  .timestamp (.epochMillis 1700000000000),
  .rule .violations "image-alt" [
    .node ["main > img.hero"] [
      .html "<img class=\"hero\" src=\"hero.png\">",
      .failureSummary "Fix all of the following:\n  Element does not have an alt attribute",
      .check .all "has-alt" "Element does not have an alt attribute" false]]]

/-- Nothing but a rule that does not apply (`inapplicable_region_only`). -/
def inapplicableRegionOnly : List Step := [
  .url "https://example.com/",
  .rule .inapplicable "region" []]

def regionViolation : List Step := [
  .url "https://example.com/",
  .rule .violations "region" [
    .node ["body > div.banner"] [
      .check .any "region" "Some page content is not contained by landmarks" false]]]

/-- A page with results in every bucket (`mixed`). -/
def mixed : List Step := [
  .url "https://example.com/mixed",
  .timestamp (.text "2024-05-01T12:00:00.000Z"),
  .rule .passes "document-title" [
    .node ["html"] [
      .check .any "doc-has-title" "Document has a non-empty <title> element" true]],
  .rule .passes "image-alt" [
    .node ["img.logo"] [.check .any "has-alt" "Element has an alt attribute" true]],
  .rule .violations "image-alt" [
    .node ["main > img.hero"] [
      .failureSummary "Fix any of the following",
      .check .any "has-alt" "Element does not have an alt attribute" false],
    .node ["footer > img"] [
      .check .any "has-alt" "Element does not have an alt attribute" false]],
  .rule .violations "color-contrast" [
    .node ["p.muted"] [
      .check .any "color-contrast" "raw contrast message" false,
      .data (.object [
        ("bgColor", .string "#ffffff"),
        ("contrastRatio", .number (.float ⟨false, 5 * Numeric.twoTo 50, -51⟩)),
        ("fgColor", .string "#aaaaaa")])]],
  .rule .incomplete "link-purpose" [
    .node ["nav > a.more"] [
      .check .any "link-purpose-collected" "" true,
      .data (.object [
        ("accessibleName", .string "Read more"),
        ("url", .string "https://example.com/post")])]],
  .rule .inapplicable "region" [],
  .rule .inapplicable "frame-title" []]

/-- The sample scans by name. -/
def scans : List (String × List Step) := [
  ("image_alt_violation", imageAltViolation),
  ("inapplicable_region_only", inapplicableRegionOnly),
  ("region_violation", regionViolation),
  ("mixed", mixed),
  ("empty", [])]

end AccessReport.Samples
