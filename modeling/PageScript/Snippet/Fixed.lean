import PageScript.Text.Pieces

/-!
# Snippets that never change

The code that is put into pages as it is: the hooks that keep what a page says, the functions that
element queries share, and the two displays for watched sessions.
-/

namespace PageScript

namespace Snippet

/-- Lines as one text. -/
def lines (ls : List String) : String := Text.join "\n" ls

/-- Keeps dialogs, console lines and uncaught errors in lists of the page.  A dialog never blocks,
and a question is answered with yes.  A second run changes nothing. -/
def hooks : String := lines
  ["(() => \x7b",
   "    if (window.__wr_installed) return;",
   "    window.__wr_installed = true;",
   "    window.__wr_alerts = [];",
   "    window.__wr_console = [];",
   "    window.__wr_errors = [];",
   "    window.alert = (m) => \x7b window.__wr_alerts.push(String(m ?? '')); \x7d;",
   "    window.confirm = (m) => \x7b window.__wr_alerts.push(String(m ?? '')); return true; \x7d;",
   "    window.prompt = (m, d) => \x7b window.__wr_alerts.push(String(m ?? '')); return d ?? ''; \x7d;",
   "    for (const level of ['log', 'info', 'warn', 'error', 'debug']) \x7b",
   "        const orig = console[level].bind(console);",
   "        console[level] = (...args) => \x7b",
   "            window.__wr_console.push(level.toUpperCase() + ': ' + args.map(String).join(' '));",
   "            orig(...args);",
   "        \x7d;",
   "    \x7d",
   "    window.addEventListener('error', (e) => window.__wr_errors.push(String(e.message)));",
   "    window.addEventListener('unhandledrejection', (e) => window.__wr_errors.push(String(e.reason)));",
   "\x7d)()"]

/-- The functions that other snippets use: finding the elements of a selector, telling whether an
element is visible, and setting its value as typing would.  A selector that begins with a slash or a
parenthesis is evaluated as XPath. -/
def finder : String := lines
  ["",
   "    const __wrFind = (sel) => \x7b",
   "        if (sel.startsWith('/') || sel.startsWith('(')) \x7b",
   "            const r = document.evaluate(sel, document, null, XPathResult.ORDERED_NODE_SNAPSHOT_TYPE, null);",
   "            const out = [];",
   "            for (let i = 0; i < r.snapshotLength; i++) out.push(r.snapshotItem(i));",
   "            return out;",
   "        \x7d",
   "        return Array.from(document.querySelectorAll(sel));",
   "    \x7d;",
   "    const __wrVisible = (el) => \x7b",
   "        const s = getComputedStyle(el);",
   "        return s.display !== 'none' && s.visibility !== 'hidden'",
   "            && (el.offsetWidth > 0 || el.offsetHeight > 0 || el.getClientRects().length > 0);",
   "    \x7d;",
   "    const __wrSet = (el, v) => \x7b",
   "        const proto = el instanceof HTMLTextAreaElement ? HTMLTextAreaElement.prototype : HTMLInputElement.prototype;",
   "        const setter = Object.getOwnPropertyDescriptor(proto, 'value')?.set;",
   "        if (setter && (el instanceof HTMLInputElement || el instanceof HTMLTextAreaElement)) setter.call(el, v);",
   "        else el.value = v;",
   "        el.dispatchEvent(new Event('input', \x7b bubbles: true \x7d));",
   "        el.dispatchEvent(new Event('change', \x7b bubbles: true \x7d));",
   "    \x7d;",
   ""]

/-- Shows where the mouse is. -/
def cursor : String := lines
  ["(() => \x7b",
   "    if (document.getElementById('__wr-cursor')) return;",
   "    const dot = document.createElement('div');",
   "    dot.id = '__wr-cursor';",
   "    dot.setAttribute('style', 'position: absolute; z-index: 2147483647; pointer-events: none;'",
   "        + 'width: 18px; height: 18px; margin: -9px 0 0 -9px; border-radius: 50%;'",
   "        + 'background: rgba(255, 64, 64, 0.6); border: 2px solid #fff;'",
   "        + 'transition: left 0.2s ease-out, top 0.2s ease-out; left: 0; top: 0;');",
   "    document.body.appendChild(dot);",
   "    document.addEventListener('mousemove', (e) => \x7b",
   "        dot.style.left = e.pageX + 'px';",
   "        dot.style.top = e.pageY + 'px';",
   "    \x7d, true);",
   "\x7d)()"]

/-- Shows the keys that are pressed. -/
def keys : String := lines
  ["(() => \x7b",
   "    if (document.getElementById('__wr-keys')) return;",
   "    const box = document.createElement('div');",
   "    box.id = '__wr-keys';",
   "    box.setAttribute('style', 'position: fixed; z-index: 2147483647; pointer-events: none;'",
   "        + 'top: 50%; left: 50%; transform: translate(-50%, -50%);'",
   "        + 'min-width: 125px; min-height: 125px; border: 1px solid #000; border-radius: 25px;'",
   "        + 'background: rgba(255, 255, 255, 0.85); font: 110px/125px sans-serif;'",
   "        + 'text-align: center; opacity: 0; transition: opacity 0.4s;');",
   "    document.body.appendChild(box);",
   "    let timer = null;",
   "    document.addEventListener('keydown', (e) => \x7b",
   "        box.textContent = e.key === 'Enter' ? '↵' : (e.key.length === 1 ? e.key : e.key.slice(0, 5));",
   "        box.style.opacity = '1';",
   "        clearTimeout(timer);",
   "        timer = setTimeout(() => \x7b box.style.opacity = '0'; \x7d, 300);",
   "    \x7d, true);",
   "\x7d)()"]

end Snippet

end PageScript
