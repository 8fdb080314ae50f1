import Recommender.Files.Tree

/-!
The scripts that come with the library, and file trees that hold them.
-/
namespace Recommender

namespace Bundled

/-- Matrix factorization as it is commonly set up. -/
def factorization : Text :=
  "// Configure the gradient descent SVD to behave mostly like FunkSVD\n"
    ++ "rec.name = \"FunkSVD\"\n"
    ++ "rec.module = org.grouplens.lenskit.svd.GradientDescentSVDModule\n"
    ++ "// mean damping is currently disabled\n"
    ++ "// rec.module.core.meanDamping = 25\n"
    ++ "rec.module.core.baseline = org.grouplens.lenskit.baseline.ItemUserMeanPredictor\n"
    ++ "rec.module.clampingFunction = org.grouplens.lenskit.svd.RatingRangeClamp\n"

/-- Item-item filtering as it is commonly set up. -/
def itemItem : Text :=
  "/* Configuration script to run a pretty good item-item recommender. */\n"
    ++ "rec.name = \"ItemItem\"\n"
    ++ "rec.module = org.grouplens.lenskit.knn.item.ItemRecommenderModule\n"
    ++ "rec.module.knn.similarityDamping = 50\n"
    ++ "rec.module.core.baseline = org.grouplens.lenskit.baseline.ItemUserMeanPredictor\n"

/-- The bundled scripts as files. -/
def entries : List (FilePath × FileNode) :=
  [(FilePath.bundledDirectory.child "funksvd.rec", .file (factorization.flatMap Utf8.encodeOne)),
    (FilePath.bundledDirectory.child "itemitem.rec", .file (itemItem.flatMap Utf8.encodeOne))]

end Bundled

/-- The file tree of the given files and the bundled scripts. -/
def FileTree.ofEntries (entries : List (FilePath × FileNode)) : FileTree :=
  ⟨Table.ofList (entries ++ Bundled.entries)⟩

end Recommender
