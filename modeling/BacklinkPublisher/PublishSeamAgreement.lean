import BacklinkPublisher.PublishSeams

set_option autoImplicit false

/-!
# Where the two publish seams agree

Both seams take one row from the same stores through the same dedup gate and the
same adapter outcome. They differ in two places: the fresh seam leaves the item of
a skipped row as it is, and the resume seam has no arm for a rejected content.
-/
namespace BacklinkPublisher.PublishSeamAgreement
open DedupStore DedupGate PublishErrors Checkpoints PublishSeams

variable (config : SeamConfig) (options : PublishOptions) (answers : RowAnswers)

def velogRow : PublishRow where
  id := "row-1"
  platform := some "velog"
  targetUrl := some "https://example.org/page"

def velogRunId : String := "20260101T000000-0123abcd"

def velogStores (table : DedupTable) : Stores where
  table := table
  checkpoint := createCheckpoint velogRunId "2026-01-01T00:00:00+00:00" [velogRow] none "draft" false

end BacklinkPublisher.PublishSeamAgreement
