import Recommender.Component.Registry

/-!
The components that every host knows, with the parameters of its modules.
-/
namespace Recommender.Builtin

/-- The floating point number nearest to a decimal. -/
def decimal (digits : Nat) (exponent : Int) : Datum :=
  .float (Double.ofDecimal false digits exponent)

/-- A whole number as a bound. -/
def bound (n : Int) : Option Double :=
  some (Double.ofInt n)

/-- The number of threads used unless a script says otherwise: one for each processor. -/
def threads (processors : Option Nat) : Nat :=
  match processors with
  | some (n + 1) => n + 1
  | _ => 1

/-- Parameters that every module takes. -/
def coreParameters (processors : Option Nat) : List Parameter :=
  [⟨⟨"core.baseline", by decide⟩, .component .baseline, .missing, none,
      "Baseline predictor used for normalization and fallback"⟩,
    ⟨⟨"core.meanDamping", by decide⟩, .scalar .float, decimal 0 0, bound 0,
      "Bayesian damping applied to baseline means"⟩,
    ⟨⟨"core.threadCount", by decide⟩, .scalar .int, .int (threads processors), bound 1,
      "Threads used while building models"⟩,
    ⟨⟨"core.minRating", by decide⟩, .scalar .float, decimal 1 0, none,
      "Lowest value of the rating scale"⟩,
    ⟨⟨"core.maxRating", by decide⟩, .scalar .float, decimal 5 0, none,
      "Highest value of the rating scale"⟩]

/-- Parameters of the modules that look for neighbors. -/
def neighborParameters : List Parameter :=
  [⟨⟨"knn.similarityDamping", by decide⟩, .scalar .float, decimal 100 0, bound 0,
      "Damping term added to the similarity denominator"⟩,
    ⟨⟨"knn.neighborhoodSize", by decide⟩, .scalar .int, .int 20, bound 1,
      "Neighbors considered per prediction"⟩,
    ⟨⟨"knn.similarity", by decide⟩, .component .similarity,
      .text "org.grouplens.lenskit.knn.CosineSimilarity", none, "Vector similarity function"⟩,
    ⟨⟨"knn.normalizer", by decide⟩, .component .normalizer, .missing, none,
      "Rating vector normalizer applied before similarity"⟩]

/-- Parameters of matrix factorization. -/
def factorizationParameters : List Parameter :=
  [⟨⟨"featureCount", by decide⟩, .scalar .int, .int 100, bound 1, "Number of latent features"⟩,
    ⟨⟨"learningRate", by decide⟩, .scalar .float, decimal 1 (-3), bound 0,
      "Gradient descent learning rate"⟩,
    ⟨⟨"regularization", by decide⟩, .scalar .float, decimal 15 (-3), bound 0,
      "Gradient descent regularization term"⟩,
    ⟨⟨"iterationCount", by decide⟩, .scalar .int, .int 0, bound 0,
      "Training epochs per feature; 0 trains until the threshold"⟩,
    ⟨⟨"trainingThreshold", by decide⟩, .scalar .float, decimal 1 (-5), bound 0,
      "Error improvement below which training of a feature stops"⟩,
    ⟨⟨"clampingFunction", by decide⟩, .component .clamp,
      .text "org.grouplens.lenskit.svd.IdentityClamp", none,
      "Function applied to intermediate predictions"⟩]

/-- The parameters of neighbor modules, their own first. -/
def neighborModuleParameters (processors : Option Nat) : List Parameter :=
  neighborParameters ++ coreParameters processors

/-- The parameters of the factorization module, its own first. -/
def factorizationModuleParameters (processors : Option Nat) : List Parameter :=
  factorizationParameters ++ coreParameters processors

theorem core_distinct (processors : Option Nat)
    : ((coreParameters processors).map Parameter.path).Nodup := by
  simp only [coreParameters, List.map]
  decide

theorem neighbor_distinct (processors : Option Nat)
    : ((neighborModuleParameters processors).map Parameter.path).Nodup := by
  simp only [neighborModuleParameters, neighborParameters, coreParameters, List.cons_append,
    List.nil_append, List.map]
  decide

theorem factorization_distinct (processors : Option Nat)
    : ((factorizationModuleParameters processors).map Parameter.path).Nodup := by
  simp only [factorizationModuleParameters, factorizationParameters, coreParameters,
    List.cons_append, List.nil_append, List.map]
  decide

/-- The modules. -/
def modules (processors : Option Nat) : List Component :=
  [{ reference := ⟨"org.grouplens.lenskit.knn.item.ItemRecommenderModule", by decide⟩
     kind := .module
     aliases := ["ItemItem"]
     description := "Item-item collaborative filtering"
     parameters := neighborModuleParameters processors
     declaring := .inr rfl
     distinct := neighbor_distinct processors },
    { reference := ⟨"org.grouplens.lenskit.knn.user.UserRecommenderModule", by decide⟩
      kind := .module
      aliases := ["UserUser"]
      description := "User-user collaborative filtering"
      parameters := neighborModuleParameters processors
      declaring := .inr rfl
      distinct := neighbor_distinct processors },
    { reference := ⟨"org.grouplens.lenskit.svd.GradientDescentSVDModule", by decide⟩
      kind := .module
      aliases := ["FunkSVD"]
      description := "Matrix factorization trained by gradient descent"
      parameters := factorizationModuleParameters processors
      declaring := .inr rfl
      distinct := factorization_distinct processors },
    { reference := ⟨"org.grouplens.lenskit.slopeone.SlopeOneModule", by decide⟩
      kind := .module
      aliases := ["SlopeOne"]
      description := "Slope One rating prediction"
      parameters := coreParameters processors
      declaring := .inr rfl
      distinct := core_distinct processors }]

/-- A component that declares no parameters and has no alias. -/
def plain (reference : Reference) (kind : ComponentKind) (description : Text) : Component :=
  ⟨reference, kind, [], description, [], .inl rfl, by simp⟩

/-- The components that modules are put together from. -/
def parts : List Component :=
  [plain ⟨"org.grouplens.lenskit.baseline.ConstantPredictor", by decide⟩ .baseline
      "Predicts a fixed value",
    plain ⟨"org.grouplens.lenskit.baseline.GlobalMeanPredictor", by decide⟩ .baseline
      "Predicts the global mean rating",
    plain ⟨"org.grouplens.lenskit.baseline.UserMeanPredictor", by decide⟩ .baseline
      "Predicts the user's mean rating",
    plain ⟨"org.grouplens.lenskit.baseline.ItemMeanPredictor", by decide⟩ .baseline
      "Predicts the item's mean rating",
    plain ⟨"org.grouplens.lenskit.baseline.ItemUserMeanPredictor", by decide⟩ .baseline
      "Item mean plus the user's mean offset",
    plain ⟨"org.grouplens.lenskit.svd.RatingRangeClamp", by decide⟩ .clamp
      "Clamps values to the rating scale",
    plain ⟨"org.grouplens.lenskit.svd.IdentityClamp", by decide⟩ .clamp
      "Leaves values unchanged",
    plain ⟨"org.grouplens.lenskit.knn.CosineSimilarity", by decide⟩ .similarity
      "Cosine similarity of rating vectors",
    plain ⟨"org.grouplens.lenskit.knn.PearsonCorrelation", by decide⟩ .similarity
      "Pearson correlation of co-rated items",
    plain ⟨"org.grouplens.lenskit.norm.BaselineSubtractingNormalizer", by decide⟩ .normalizer
      "Subtracts baseline predictions",
    plain ⟨"org.grouplens.lenskit.norm.MeanVarianceNormalizer", by decide⟩ .normalizer
      "Centers and scales by the vector's mean and variance"]

/-- The components that every host knows. -/
def components (processors : Option Nat) : List Component :=
  modules processors ++ parts

/-- The registry of the components that every host knows. -/
def registry (processors : Option Nat) : Registry :=
  (Registry.empty.registerAll false (components processors)).1

end Recommender.Builtin
