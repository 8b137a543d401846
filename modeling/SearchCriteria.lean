import SearchCriteria.Main
import SearchCriteria.Proofs.Boosts
import SearchCriteria.Proofs.Choice
import SearchCriteria.Proofs.Copies
import SearchCriteria.Proofs.Descent
import SearchCriteria.Proofs.Factoring
import SearchCriteria.Proofs.Faithful
import SearchCriteria.Proofs.Finite
import SearchCriteria.Proofs.Joining
import SearchCriteria.Proofs.Levels
import SearchCriteria.Proofs.Loading
import SearchCriteria.Proofs.Meaning
import SearchCriteria.Proofs.Orderly
import SearchCriteria.Proofs.Overrides
import SearchCriteria.Proofs.Reports
import SearchCriteria.Proofs.Requests
import SearchCriteria.Proofs.Wildcards
import SearchCriteria.Proofs.Wording
import SearchCriteria.Proofs.Workshop
import SearchCriteria.Session.Compilation
import SearchCriteria.Session.Equality
import SearchCriteria.Session.Member
