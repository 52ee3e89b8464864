import BoundSeal.Policy.Narrowing
import BoundSeal.Destination.Agreement
import BoundSeal.Transport.TicketRuns
import BoundSeal.Redirect.DnsContexts
import BoundSeal.Cookie.Scope
import BoundSeal.Http1.OneExchange
import BoundSeal.Operator.Executions
import BoundSeal.Analyzers.Books
import BoundSeal.Analyzers.SchedulerRuns
import BoundSeal.Analyzers.ShardingOrder
import BoundSeal.Analyzers.CorrelationOrder
import BoundSeal.Analyzers.DedupRuns
import BoundSeal.Audit.Chain
import BoundSeal.Workflow.Compensation
import BoundSeal.Workflow.Completion
import BoundSeal.Gateway.RateLimit
import BoundSeal.Operator.PathScope
import BoundSeal.Http1.Writing
import BoundSeal.Http1.Framing
import BoundSeal.Cookie.Lifetime
import BoundSeal.Workflow.LostLeases
import BoundSeal.Workflow.Dependencies
import BoundSeal.Http1.Accepted
